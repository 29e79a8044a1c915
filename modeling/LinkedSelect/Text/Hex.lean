/-!
# Hexadecimal digits

* `upper` writes a value below sixteen as one digit;
* `value?` reads a digit of either case, given by its code.
-/

namespace LinkedSelect.Hex

/-- The digit of a value below sixteen, letters in upper case. -/
def upper (n : Nat) : Char :=
  if n < 10 then Char.ofNat (48 + n) else Char.ofNat (55 + n)

/-- The value of the digit with this code, in either case. -/
def value? (code : Nat) : Option Nat :=
  if 48 ≤ code ∧ code ≤ 57 then some (code - 48)
  else if 65 ≤ code ∧ code ≤ 70 then some (code - 55)
  else if 97 ≤ code ∧ code ≤ 102 then some (code - 87)
  else none

/-- A digit written in upper case reads back. -/
theorem value?_upper {n : Nat} (h : n < 16) : value? (upper n).toNat = some n := by
  have all : ∀ m ∈ List.range 16, value? (upper m).toNat = some m := by decide
  exact all n (List.mem_range.mpr h)

end LinkedSelect.Hex
