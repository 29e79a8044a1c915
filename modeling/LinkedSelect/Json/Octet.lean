/-!
# The octets that JSON text is made of

Names for the octets with a meaning of their own, the classes of blanks and digits, and `skipBlanks`.
-/

namespace LinkedSelect.Json

/-- The double quote. -/
abbrev quote : UInt8 := 34

/-- The plus sign. -/
abbrev plus : UInt8 := 43

/-- The comma. -/
abbrev comma : UInt8 := 44

/-- The minus sign. -/
abbrev minus : UInt8 := 45

/-- The decimal point. -/
abbrev point : UInt8 := 46

/-- The digit zero. -/
abbrev zero : UInt8 := 48

/-- The colon. -/
abbrev colon : UInt8 := 58

/-- The bracket that opens a list. -/
abbrev openList : UInt8 := 91

/-- The backslash. -/
abbrev backslash : UInt8 := 92

/-- The bracket that closes a list. -/
abbrev closeList : UInt8 := 93

/-- The brace that opens an object. -/
abbrev openObject : UInt8 := 123

/-- The brace that closes an object. -/
abbrev closeObject : UInt8 := 125

/-- The space, the tab, the line feed and the carriage return. -/
def isBlank (b : UInt8) : Bool :=
  b == 32 || b == 9 || b == 10 || b == 13

/-- The digits from zero to nine. -/
def isDigit (b : UInt8) : Bool :=
  48 ≤ b.toNat && b.toNat ≤ 57

/-- The letter that opens an exponent. -/
def isExponentMark (b : UInt8) : Bool :=
  b == 101 || b == 69

/-- The octets from the first that is not blank on. -/
def skipBlanks (s : List UInt8) : List UInt8 :=
  s.dropWhile isBlank

/-- Dropping from the front does not lengthen. -/
theorem length_dropWhile_le (p : UInt8 → Bool) (s : List UInt8) : (s.dropWhile p).length ≤ s.length :=
  (List.dropWhile_suffix p).length_le

/-- Skipping blanks does not lengthen. -/
theorem length_skipBlanks_le (s : List UInt8) : (skipBlanks s).length ≤ s.length :=
  length_dropWhile_le isBlank s

/-- What follows the first octet after the blanks is shorter. -/
theorem length_lt_of_skipBlanks {s r : List UInt8} {c : UInt8} (h : skipBlanks s = c :: r) :
    r.length < s.length := by
  have := length_skipBlanks_le s
  rw [h] at this
  exact this

end LinkedSelect.Json
