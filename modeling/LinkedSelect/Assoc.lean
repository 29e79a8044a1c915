/-!
# Association lists with one value for each key

`put` replaces the value of a key where it stands, or adds the key at the end. `lookup_put` says what it does to a
look-up, and `keys_put` that a list without repeated keys stays so.
-/

namespace LinkedSelect.Assoc

variable {α β : Type} [DecidableEq α]

/-- Gives a key a value, in place of any that it has. -/
def put (key : α) (value : β) : List (α × β) → List (α × β)
  | [] => [(key, value)]
  | (k, v) :: rest => if k = key then (key, value) :: rest else (k, v) :: put key value rest

/-- After a key is put, it has the new value, and the other keys have what they had. -/
theorem lookup_put (key k : α) (value : β) (pairs : List (α × β)) :
    (put key value pairs).lookup k = if k = key then some value else pairs.lookup k := by
  induction pairs with
  | nil =>
    by_cases h : k = key
    · simp [put, h]
    · have : (k == key) = false := by simpa using h
      simp [put, List.lookup_cons, this, h]
  | cons p rest ih =>
    obtain ⟨k', v⟩ := p
    by_cases hk : k' = key
    · subst hk
      by_cases h : k = k'
      · simp [put, h]
      · have : (k == k') = false := by simpa using h
        simp [put, List.lookup_cons, h, this]
    · by_cases h : k = k'
      · subst h
        simp [put, hk]
      · have : (k == k') = false := by simpa using h
        simp [put, hk, List.lookup_cons, this, ih]

/-- The keys after a key is put: the same ones, and it at the end if it is new. -/
theorem keys_put (key : α) (value : β) (pairs : List (α × β)) :
    (put key value pairs).map (·.1) =
      if key ∈ pairs.map (·.1) then pairs.map (·.1) else pairs.map (·.1) ++ [key] := by
  induction pairs with
  | nil => simp [put]
  | cons p rest ih =>
    obtain ⟨k, v⟩ := p
    by_cases hk : k = key
    · subst hk
      simp [put]
    · have : key ≠ k := fun e => hk e.symm
      by_cases hm : key ∈ rest.map (·.1) <;> simp [put, hk, this, ih, hm]

end LinkedSelect.Assoc
