/-!
# Binary floating point of 64 bits

A number is its 64 bits: a sign, and below it a magnitude. Magnitudes are ordered as the values they stand for;
the one of infinity follows that of the largest finite number, and larger ones are not numbers.

* `significand` and `exponent` give a finite magnitude as `significand * 2 ^ exponent`;
* `ofRatio` rounds a quotient of naturals to the nearest number, a half to the even neighbour;
* `mul` and `div` round the exact product and quotient of two finite numbers;
* `same` is the comparison in which zero equals its negative and what is not a number equals nothing.
-/

namespace LinkedSelect

/-- A binary floating point number of 64 bits. -/
structure Binary64 where
  /-- sign, exponent and fraction -/
  bits : UInt64
  deriving DecidableEq, Repr, Inhabited

namespace Binary64

/-- The place value of the sign among the bits. -/
def signPlace : Nat :=
  0x8000000000000000

/-- The place value of the exponent among the bits, which is also that of the leading bit of a significand. -/
def exponentPlace : Nat :=
  0x10000000000000

/-- The sign bit is set. -/
def isNegative (x : Binary64) : Bool :=
  signPlace ≤ x.bits.toNat

/-- The bits below the sign. -/
def magnitude (x : Binary64) : Nat :=
  x.bits.toNat % signPlace

/-- The magnitude of infinity. -/
def infinity : Nat :=
  2047 * exponentPlace

/-- One of the two infinities. -/
def isInfinite (x : Binary64) : Bool :=
  x.magnitude = infinity

/-- Not a number. -/
def isNaN (x : Binary64) : Bool :=
  infinity < x.magnitude

/-- One of the two zeros. -/
def isZero (x : Binary64) : Bool :=
  x.magnitude = 0

/-- A number from its sign and magnitude. -/
def ofMagnitude (negative : Bool) (m : Nat) : Binary64 :=
  ⟨UInt64.ofNat (if negative then signPlace + m else m)⟩

/-- The number with the other sign. -/
def neg (x : Binary64) : Binary64 :=
  ofMagnitude (!x.isNegative) x.magnitude

/-- The integer part of a finite magnitude in units of its last place. -/
def significand (x : Binary64) : Nat :=
  if x.magnitude < exponentPlace then x.magnitude else exponentPlace + x.magnitude % exponentPlace

/-- The place value of the last bit of the significand, as a power of two. -/
def exponent (x : Binary64) : Int :=
  (max (x.magnitude / exponentPlace) 1 : Nat) - 1075

/-- Numerator of a finite magnitude over `denominator`. -/
def numerator (x : Binary64) : Nat :=
  x.significand * Nat.pow 2 x.exponent.toNat

/-- A power of two. -/
def denominator (x : Binary64) : Nat :=
  Nat.pow 2 (-x.exponent).toNat

/-- The quotient rounded to the nearest natural, a half to the even neighbour. -/
def roundDiv (num den : Nat) : Nat :=
  let q := num / den
  let r := num % den
  if 2 * r < den ∨ (2 * r = den ∧ q % 2 = 0) then q else q + 1

/-- The place value of the last bit that a number near `num / den` has, as a power of two. -/
def lastPlace (num den : Nat) : Int :=
  let e : Int := (num.log2 : Int) - den.log2
  -- the quotient lies between 2 ^ (e - 1) and 2 ^ (e + 1)
  let top := if den * Nat.pow 2 e.toNat ≤ num * Nat.pow 2 (-e).toNat then e else e - 1
  max (top - 52) (-1074)

/-- The magnitude nearest to `num / den`; too large a quotient is infinite. -/
def roundRatio (num den : Nat) : Nat :=
  if num = 0 then 0
  else
    let u := lastPlace num den
    let nearest := roundDiv (num * Nat.pow 2 (-u).toNat) (den * Nat.pow 2 u.toNat)
    min infinity (nearest + (u + 1074).toNat * exponentPlace)

/-- The number nearest to `num / den`, of the given sign. -/
def ofRatio (negative : Bool) (num den : Nat) : Binary64 :=
  ofMagnitude negative (roundRatio num den)

/-- The number nearest to a natural. -/
def ofNat (n : Nat) : Binary64 :=
  ofRatio false n 1

/-- The product of two finite numbers. -/
def mul (x y : Binary64) : Binary64 :=
  ofRatio (x.isNegative != y.isNegative) (x.numerator * y.numerator) (x.denominator * y.denominator)

/-- The quotient of two finite numbers, the second not zero. -/
def div (x y : Binary64) : Binary64 :=
  ofRatio (x.isNegative != y.isNegative) (x.numerator * y.denominator) (x.denominator * y.numerator)

/-- Equality of values: `0` is `-0`, and what is not a number is not even itself. -/
def same (x y : Binary64) : Bool :=
  !x.isNaN && !y.isNaN && (x.bits == y.bits || (x.isZero && y.isZero))

end Binary64

end LinkedSelect
