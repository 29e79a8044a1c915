import LinkedSelect.Text.Runs

/-!
# Marks

Characters that are written on, around or beside the one before them, among those that a domain may have.
-/

namespace LinkedSelect.Mark

/-- The runs of the set. -/
def runs : List Nat := [
    0, 768, 113, 274, 8, 262, 45, 1, 1, 1, 2, 1, 2, 1, 9, 64, 11, 48, 21, 16, 1, 101, 8, 1, 6, 2, 2, 1, 4, 35,
    1, 30, 29, 89, 11, 58, 9, 9, 1, 24, 4, 1, 9, 1, 3, 1, 7, 41, 5, 57, 9, 42, 58, 54, 3, 1, 18, 1, 15, 2, 2,
    29, 4, 55, 1, 1, 16, 9, 9, 2, 4, 24, 7, 55, 32, 20, 2, 3, 1, 11, 4, 55, 1, 1, 18, 18, 4, 20, 11, 55, 1, 1,
    33, 3, 4, 28, 1, 59, 18, 7, 15, 26, 5, 55, 1, 1, 26, 10, 4, 27, 3, 56, 1, 1, 30, 6, 4, 13, 17, 55, 2, 1,
    16, 9, 1, 10, 4, 27, 4, 69, 28, 12, 2, 61, 1, 2, 11, 8, 8, 98, 1, 2, 9, 11, 8, 72, 2, 27, 1, 1, 1, 1, 1,
    4, 2, 49, 20, 1, 2, 5, 49, 8, 1, 100, 20, 23, 4, 4, 3, 1, 3, 2, 7, 3, 4, 13, 12, 1, 1, 10, 4, 703, 3, 946,
    13, 19, 3, 29, 14, 18, 14, 54, 30, 9, 3, 165, 2, 34, 1, 118, 32, 215, 7, 55, 43, 48, 85, 47, 17, 38, 9,
    12, 3, 30, 13, 56, 22, 40, 23, 149, 3, 1, 21, 4, 1, 6, 1, 2, 3, 198, 65, 719, 52, 3051, 4, 140, 1, 96, 32,
    554, 6, 105, 4, 30162, 4, 1, 10, 32, 2, 80, 2, 272, 1, 3, 1, 4, 1, 23, 5, 4, 4, 80, 2, 50, 26, 18, 18, 13,
    1, 38, 8, 25, 24, 33, 4, 47, 14, 36, 1, 67, 23, 3, 1, 8, 4, 43, 3, 50, 1, 1, 3, 2, 2, 5, 2, 1, 1, 41, 5,
    5, 12, 226, 8, 1, 4, 20270, 148, 622, 37, 952, 131, 96, 1, 149, 10, 1665, 15, 40, 8, 165, 6, 569, 12, 57,
    5, 317, 2, 77, 6, 70, 11, 49, 4, 122, 3, 53, 15, 41, 1, 2, 2, 10, 4, 45, 11, 7, 14, 48, 3, 36, 15, 15, 2,
    44, 1, 12, 3, 48, 14, 8, 4, 1, 2, 92, 12, 6, 1, 2, 63, 95, 17, 16, 5, 54, 2, 1, 18, 7, 6, 5, 30, 56, 25,
    1, 1, 14, 31, 53, 18, 23, 1, 81, 20, 235, 18, 27, 36, 48, 17, 106, 13, 101, 19, 252, 15, 245, 15, 1, 1, 1,
    2, 141, 16, 3, 28, 1, 10, 40, 7, 1, 4, 8, 9, 1, 11, 46, 16, 198, 96, 111, 17, 82, 110, 49, 21, 1, 9, 58,
    14, 347, 4, 9, 2, 1, 1, 48, 15, 23, 86, 5264, 1, 6, 25, 11454, 18, 2496, 5, 59, 7, 1048, 1, 1, 66, 81, 14,
    19627, 2, 4705, 80, 533, 5, 3, 22, 2, 7, 30, 4, 148, 3, 1979, 55, 4, 50, 8, 1, 14, 1, 22, 1125, 256, 256,
    48, 7, 375, 18, 44, 4, 508, 4, 254, 2, 243, 1, 2, 1, 7, 2, 5, 9, 466, 82, 34, 7]

/-- The character is a mark. -/
def holds (c : Char) : Bool :=
  Runs.holds runs c.toNat

end LinkedSelect.Mark
