/-!
# UTF-8

* `encode` writes scalar values as octets;
* `decodeChar?` splits the first well-formed sequence off a list of octets: it refuses overlong forms,
  surrogates, values above the last scalar value and sequences that are cut short;
* `decode` reads a whole list and, where it fails, hands back the octets from the first ill-formed sequence on.
-/

namespace LinkedSelect.Utf8

/-- The octets of a text. -/
def encode (cs : List Char) : List UInt8 :=
  cs.flatMap String.utf8EncodeChar

/-- The six bits that a continuation octet carries. -/
def continuation? (b : UInt8) : Option Nat :=
  if b.toNat / 64 = 2 then some (b.toNat % 64) else none

/-- The scalar value `n`, provided that no shorter sequence holds it. -/
def scalar? (least n : Nat) : Option Char :=
  if h : least ≤ n ∧ n.isValidChar then some (Char.ofNatAux n h.2) else none

/-- The first scalar value and the octets after it. -/
def decodeChar? : List UInt8 → Option (Char × List UInt8)
  | [] => none
  | a :: r =>
    if a.toNat < 128 then (scalar? 0 a.toNat).map (·, r)
    else if a.toNat / 32 = 6 then
      match r with
      | b :: r => do
        let b ← continuation? b
        let c ← scalar? 0x80 (a.toNat % 32 * 64 + b)
        return (c, r)
      | [] => none
    else if a.toNat / 16 = 14 then
      match r with
      | b :: c :: r => do
        let b ← continuation? b
        let c ← continuation? c
        let x ← scalar? 0x800 ((a.toNat % 16 * 64 + b) * 64 + c)
        return (x, r)
      | _ => none
    else if a.toNat / 8 = 30 then
      match r with
      | b :: c :: d :: r => do
        let b ← continuation? b
        let c ← continuation? c
        let d ← continuation? d
        let x ← scalar? 0x10000 (((a.toNat % 8 * 64 + b) * 64 + c) * 64 + d)
        return (x, r)
      | _ => none
    else none

/-- A sequence has at least one octet. -/
theorem length_of_decodeChar? {s r : List UInt8} {c : Char} (h : decodeChar? s = some (c, r)) :
    r.length < s.length := by
  cases s with
  | nil => simp [decodeChar?] at h
  | cons a s =>
    simp only [decodeChar?] at h
    split at h
    · simp only [Option.map_eq_some_iff, Prod.mk.injEq] at h
      obtain ⟨_, _, _, rfl⟩ := h
      simp
    · split at h
      · split at h <;> simp [Option.bind_eq_some_iff] at h
        obtain ⟨_, _, _, _, _, rfl⟩ := h
        simp only [List.length_cons]
        omega
      · split at h
        · split at h <;> simp [Option.bind_eq_some_iff] at h
          obtain ⟨_, _, _, _, _, _, _, rfl⟩ := h
          simp only [List.length_cons]
          omega
        · split at h
          · split at h <;> simp [Option.bind_eq_some_iff] at h
            obtain ⟨_, _, _, _, _, _, _, _, _, rfl⟩ := h
            simp only [List.length_cons]
            omega
          · simp at h

/-- The text that the octets spell, or the octets from the first ill-formed sequence on. -/
def decode (s : List UInt8) : Except (List UInt8) (List Char) :=
  match h : decodeChar? s with
  | some (c, r) =>
    have := length_of_decodeChar? h
    (decode r).map (c :: ·)
  | none => if s.isEmpty then .ok [] else .error s
termination_by s.length

end LinkedSelect.Utf8
