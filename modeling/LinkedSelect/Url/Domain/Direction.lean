import LinkedSelect.Text.Runs

/-!
# Directions of writing

A domain with a character that is written from right to left shows its labels in an order that can be told only if each
label keeps to one direction: `isOneWay` is that rule. A label has the direction of its first letter, has no letters of
the other one, and ends in a letter of its own or a number; one from right to left has digits of one kind.

The sets are of the characters that a domain may have; those in none of them are written from left to right.
-/

namespace LinkedSelect.Url.Domain

/-- How a character takes part in the direction of a label. -/
inductive Direction
  | left
  | right
  | arabicNumber
  | europeanNumber
  | neutral
  | nonspacing
  deriving DecidableEq, Repr

namespace Direction

/-- Letters that are written from right to left. -/
def rightToLeft : List Nat := [
    0, 1470, 1, 1, 1, 2, 1, 2, 1, 9, 54, 2, 1, 2, 1, 1, 1, 13, 48, 34, 3, 1, 101, 15, 2, 7, 2, 10, 23, 1, 30,
    29, 89, 11, 58, 9, 2, 4, 3, 1, 24, 4, 1, 9, 1, 3, 1, 7, 41, 5, 57, 9, 42, 62184, 17, 688, 397, 2048, 287,
    1, 225, 15, 40, 8, 165, 6, 78, 7, 484, 38, 31, 6, 241, 32, 43, 2, 35, 48, 70, 11, 49, 4, 122, 55296, 208,
    82, 34, 7, 1445]

/-- Digits of Arabic numbers. -/
def arabicNumbers : List Nat := [
    0, 1632, 10, 1, 2, 67267, 26, 278, 32]

/-- Digits of European numbers. -/
def europeanNumbers : List Nat := [
    0, 48, 10, 1718, 10, 64487, 31]

/-- Signs that are written in the direction of what stands around them. -/
def neutrals : List Nat := [
    9, 5, 14, 5, 15, 10, 39, 26, 100, 24, 1, 449, 2, 7, 14, 2, 28, 1, 17, 117, 2, 127, 2, 402, 7, 117, 2, 1,
    2, 1, 1, 1, 2, 90, 1, 115, 1, 10, 1, 268, 4, 504, 2, 7, 1, 245, 8, 250, 13, 120, 7, 448, 1, 250, 4, 1106,
    16, 96, 1, 666, 5, 315, 1, 20, 32, 304, 6, 152, 34, 1548, 196, 52, 74, 60, 428, 69, 26, 1, 790, 1, 339,
    256, 816, 181, 7, 13, 7, 256, 517, 3, 25, 15, 1, 6, 4, 2, 4, 95, 1, 90, 1, 196, 48, 7120, 64, 22160, 64,
    317, 3, 99, 1, 10, 3, 127, 35, 101, 1, 159, 4, 12, 8, 52, 12, 746, 86, 20483, 605, 37, 46, 654, 1, 62, 77,
    3, 64, 1871, 1, 537, 7, 558, 1, 353, 42, 344, 20, 1530, 32, 2389, 42, 20451, 1, 23581, 768, 745, 89, 3,
    123, 64, 96, 3999, 465, 2592, 608, 29, 3, 61, 57, 122, 3488]

/-- Marks without a width of their own. -/
def nonspacingMarks : List Nat := [
    0, 768, 113, 274, 8, 262, 45, 1, 1, 1, 2, 1, 2, 1, 9, 64, 11, 48, 21, 16, 1, 101, 8, 1, 6, 2, 2, 1, 4, 35,
    1, 30, 29, 89, 11, 58, 9, 9, 1, 24, 4, 1, 9, 1, 3, 1, 7, 41, 5, 57, 9, 42, 57, 55, 1, 1, 1, 4, 8, 4, 1, 3,
    15, 2, 2, 29, 1, 58, 1, 4, 6, 6, 1, 20, 4, 24, 5, 57, 2, 3, 27, 20, 2, 3, 1, 11, 2, 57, 1, 4, 8, 4, 3, 18,
    4, 20, 8, 58, 1, 2, 1, 1, 6, 6, 10, 11, 4, 28, 1, 61, 1, 12, 3, 48, 1, 3, 1, 55, 1, 1, 3, 5, 18, 10, 4,
    27, 1, 58, 1, 15, 9, 13, 4, 26, 2, 57, 2, 4, 5, 7, 1, 20, 4, 27, 1, 72, 5, 3, 6, 89, 1, 2, 11, 8, 8, 98,
    1, 2, 9, 11, 8, 72, 2, 27, 1, 1, 1, 1, 1, 55, 14, 1, 5, 1, 2, 5, 49, 8, 1, 102, 4, 1, 6, 1, 2, 2, 2, 25,
    2, 4, 3, 16, 4, 13, 1, 2, 2, 6, 1, 15, 1, 703, 3, 946, 3, 29, 2, 30, 14, 18, 14, 55, 7, 8, 1, 2, 11, 9, 3,
    165, 2, 34, 1, 118, 3, 4, 2, 9, 1, 6, 7, 215, 2, 2, 3, 56, 1, 1, 9, 1, 1, 2, 8, 6, 13, 48, 84, 48, 1, 1,
    5, 1, 1, 5, 1, 40, 9, 12, 2, 32, 4, 2, 2, 1, 3, 56, 1, 1, 2, 3, 1, 1, 3, 58, 8, 2, 5, 149, 3, 1, 13, 1, 7,
    4, 1, 6, 1, 3, 2, 198, 65, 719, 52, 3051, 4, 140, 1, 96, 32, 554, 4, 107, 4, 30162, 4, 1, 10, 32, 2, 80,
    2, 272, 1, 3, 1, 4, 1, 25, 2, 5, 4, 148, 10, 18, 18, 13, 1, 38, 8, 25, 11, 46, 3, 48, 1, 2, 4, 2, 2, 39,
    1, 67, 6, 2, 2, 2, 11, 3, 1, 8, 1, 47, 1, 51, 1, 1, 3, 2, 2, 5, 2, 1, 1, 42, 2, 8, 11, 228, 1, 2, 1, 4, 3,
    20270, 148, 622, 37, 952, 131, 96, 1, 149, 10, 1665, 15, 40, 8, 165, 6, 569, 12, 57, 5, 317, 2, 77, 6, 70,
    11, 49, 4, 123, 1, 54, 15, 41, 1, 2, 2, 10, 3, 49, 4, 2, 2, 7, 14, 48, 3, 36, 5, 1, 9, 61, 1, 12, 2, 52,
    9, 10, 4, 2, 1, 95, 3, 2, 1, 1, 2, 6, 1, 2, 63, 95, 1, 3, 13, 16, 2, 57, 2, 3, 1, 37, 26, 59, 7, 12, 1, 1,
    1, 1, 1, 14, 31, 56, 8, 2, 3, 1, 1, 23, 1, 84, 6, 1, 1, 4, 2, 1, 2, 238, 6, 4, 2, 1, 2, 27, 36, 51, 8, 2,
    1, 1, 2, 106, 1, 1, 1, 2, 6, 1, 1, 101, 3, 2, 4, 1, 9, 255, 9, 1, 2, 256, 2, 1, 1, 4, 1, 144, 8, 4, 1, 32,
    6, 2, 2, 40, 6, 2, 4, 8, 9, 1, 6, 2, 3, 46, 13, 1, 2, 198, 1, 1, 3, 1, 1, 201, 14, 84, 23, 1, 7, 1, 2, 1,
    75, 49, 21, 1, 9, 64, 3, 2, 1, 1, 1, 347, 2, 11, 2, 52, 8, 2, 1, 1, 1, 23, 86, 5264, 1, 6, 25, 11454, 12,
    3, 3, 2496, 5, 59, 7, 1048, 1, 63, 4, 81, 12, 19629, 2, 4705, 80, 535, 3, 17, 8, 2, 7, 30, 4, 148, 3,
    1979, 55, 4, 50, 8, 1, 14, 1, 22, 1125, 256, 256, 48, 7, 375, 18, 44, 4, 508, 4, 254, 2, 243, 1, 2, 1, 7,
    2, 5, 9, 466, 82, 34, 7]

/-- The direction of a character. -/
def ofChar (c : Char) : Direction :=
  let n := c.toNat
  if Runs.holds rightToLeft n then .right
  else if Runs.holds arabicNumbers n then .arabicNumber
  else if Runs.holds europeanNumbers n then .europeanNumber
  else if Runs.holds neutrals n then .neutral
  else if Runs.holds nonspacingMarks n then .nonspacing
  else .left

/-- The character makes a domain one with labels from right to left. -/
def turns (c : Char) : Bool :=
  c.toNat ≥ 0x590 && (ofChar c = .right || ofChar c = .arabicNumber)

/-- The last direction but for marks without a width of their own. -/
def last? (ds : List Direction) : Option Direction :=
  (ds.reverse.dropWhile (· == .nonspacing)).head?

/-- The label keeps to one direction. -/
def isOneWay (label : List Char) : Bool :=
  let ds := label.map ofChar
  match ds.head? with
  | none => true
  | some .left => (.right ∉ ds) && (.arabicNumber ∉ ds) && (last? ds = some .left || last? ds = some .europeanNumber)
  | some .right =>
    (.left ∉ ds) && (last? ds).any (· ∈ [.right, .arabicNumber, .europeanNumber]) &&
      !((.arabicNumber ∈ ds) && (.europeanNumber ∈ ds))
  | some _ => false

end Direction

end LinkedSelect.Url.Domain
