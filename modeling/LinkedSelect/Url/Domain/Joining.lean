import LinkedSelect.Text.CombiningClass
import LinkedSelect.Url.Domain.Direction

/-!
# Joiners

The joiner and the non-joiner have no form of their own and only change that of their neighbours, so `areInPlace` wants
a reason for them: they follow a virama, or, in the case of the non-joiner, they part two letters that would join.

The sets are of the characters that a domain may have.
-/

namespace LinkedSelect.Url.Domain.Joining

/-- Letters that join on both sides. -/
def dual : List Nat := [
    0, 1568, 1, 5, 1, 1, 1, 1, 5, 4, 13, 1, 7, 1, 2, 35, 2, 9, 15, 18, 38, 1, 2, 9, 1, 1, 1, 1, 2, 40, 3, 2,
    1, 18, 3, 5, 4, 1, 9, 1, 1, 1, 1, 1, 2, 31, 11, 3, 15, 2, 4, 1, 1, 2, 3, 2, 6, 74, 33, 86, 5, 2, 1, 1, 10,
    1, 1, 10, 1, 1, 4, 2, 1, 29, 1, 2, 5, 1, 8, 9, 10, 5, 2, 2, 6, 1, 15, 3902, 1, 24, 96, 7, 34, 1, 6, 36752,
    50, 25166, 5, 14, 4, 1, 5, 1, 3, 10, 4, 145, 1, 1, 1, 3, 3, 1, 2, 1, 1, 2, 1, 28, 2, 338, 33, 1, 1, 415,
    2, 1, 10, 96, 3, 1, 17, 12, 3, 28, 4, 2, 12, 46, 1, 1, 2, 4, 1, 2, 2, 1, 2, 1, 1, 2, 1, 5, 1, 55639, 34]

/-- Letters that join what follows them only. -/
def left : List Nat := [
    0, 43122, 1, 25178, 1, 9, 1, 552, 1, 714, 21]

/-- Letters that join what stands before them only. -/
def right : List Nat := [
    0, 1570, 4, 1, 1, 1, 1, 5, 4, 21, 1, 40, 3, 20, 18, 38, 1, 2, 9, 1, 1, 1, 1, 2, 2, 1, 1, 24, 2, 32, 1, 4,
    5, 4, 1, 9, 1, 1, 1, 1, 1, 2, 1, 29, 1, 11, 3, 15, 2, 4, 1, 1, 2, 3, 2, 198, 1, 5, 2, 1, 1, 10, 1, 1, 3,
    14, 1, 1, 26, 11, 1, 27, 3, 1, 1, 2, 2, 6, 1, 66059, 1, 1, 1, 1, 2, 3, 5, 10, 1, 3, 1, 2, 1, 10, 1, 145,
    1, 1, 3, 3, 1, 2, 1, 1, 2, 1, 8, 16, 4, 373, 1, 415, 1, 112, 1, 32, 1, 31, 2, 62, 3, 2, 2, 2, 1, 4, 2, 5,
    1]

/-- The sign that makes its neighbours join. -/
abbrev joiner : Char := '\u200d'

/-- The sign that keeps its neighbours apart. -/
abbrev nonJoiner : Char := '\u200c'

/-- Marks with a width of their own, and one letter, over which neighbours join. -/
def transparent : List Nat :=
  [0xCBF, 0xCC6, 0x11A07, 0x11A08, 0x11C3F, 0x1E94B]

/-- Neighbours join over the character. -/
def isTransparent (c : Char) : Bool :=
  Direction.ofChar c = .nonspacing || c.toNat ∈ transparent

/-- The next letter is one of these sets. -/
def meets (sets : List (List Nat)) (cs : List Char) : Bool :=
  match (cs.dropWhile isTransparent).head? with
  | some c => sets.any fun set => Runs.holds set c.toNat
  | none => false

/-- A joiner or non-joiner has its reason between what stands before it, the nearest first, and what follows. -/
def hasReason (before : List Char) (c : Char) (after : List Char) : Bool :=
  before.head?.any (CombiningClass.ofChar · = CombiningClass.virama) ||
    (c = nonJoiner && meets [left, dual] before && meets [right, dual] after)

/-- Joiners and non-joiners have their reasons, what stands before a part of the label being known. -/
def areInPlaceBehind (before : List Char) : List Char → Bool
  | [] => true
  | c :: cs =>
    ((c ≠ joiner && c ≠ nonJoiner) || hasReason before c cs) && areInPlaceBehind (c :: before) cs

/-- Each joiner and non-joiner of the label has its reason. -/
def areInPlace (label : List Char) : Bool :=
  areInPlaceBehind [] label

end LinkedSelect.Url.Domain.Joining
