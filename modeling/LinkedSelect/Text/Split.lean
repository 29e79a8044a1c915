/-!
# Splitting a text

`splitOn` cuts a text at every separator, so it has one part more than there are separators.
-/

namespace LinkedSelect.Split

/-- The parts between separators; there is always one. -/
def splitOn (isSeparator : Char → Bool) : List Char → List (List Char)
  | [] => [[]]
  | c :: cs =>
    match splitOn isSeparator cs with
    | [] => [[c]]
    | part :: parts => if isSeparator c then [] :: part :: parts else (c :: part) :: parts

/-- There is always a part. -/
theorem splitOn_ne_nil (isSeparator : Char → Bool) (cs : List Char) : splitOn isSeparator cs ≠ [] := by
  cases cs with
  | nil => simp [splitOn]
  | cons c cs =>
    unfold splitOn
    split
    · simp
    · split <;> simp

end LinkedSelect.Split
