import LinkedSelect.Binary64.Basic

/-!
# Shortest decimal text

The digits of a finite number other than zero are the fewest that read back as it, and of those the nearest.

* `Decimal.shortest` tries the grids of 1, 2, … 17 digits in exact arithmetic: on each it looks at the two
  neighbours of the value and keeps those that lie in the interval of reals that round to the number, ends included
  when the significand is even;
* `Binary64.plain` writes the digits without an exponent, and of two decimals at equal distance takes the upper one;
* `Binary64.pointed` writes a decimal point or an exponent always, so that the text shows a fraction, and of two
  decimals at equal distance takes the even one.
-/

namespace LinkedSelect

/-- The value `digits * 10 ^ exponent`. -/
structure Decimal where
  digits : Nat
  exponent : Int
  deriving DecidableEq, Repr

namespace Decimal

/-- The number of decimal digits of a natural. -/
def width (n : Nat) : Nat :=
  (Nat.toDigits 10 n).length

/-- The least `p` with `num / den < 10 ^ p`, for a quotient that is not zero. -/
def point (num den : Nat) : Int :=
  if den ≤ num then width (num / den)
  else 1 - (width ((den + num - 1) / num - 1) : Int)

/-- The reals that round to a number: `low / den` to `high / den` around `mid / den`. -/
structure Interval where
  low : Nat
  mid : Nat
  high : Nat
  den : Nat
  closed : Bool

/-- The interval of a finite number that is not zero. The lower neighbour of a power of two is nearer. -/
def Interval.around (x : Binary64) : Interval :=
  let s := x.significand
  let e := x.exponent - 2
  let unit := Nat.pow 2 e.toNat
  let below := if s = Binary64.exponentPlace ∧ 1 < x.magnitude / Binary64.exponentPlace then 1 else 2
  { low := (4 * s - below) * unit
    mid := 4 * s * unit
    high := (4 * s + 2) * unit
    den := Nat.pow 2 (-e).toNat
    closed := s % 2 = 0 }

/-- The value `c * 10 ^ k` lies in the interval. -/
def Interval.holds (i : Interval) (k : Int) (c : Nat) : Bool :=
  let v := c * Nat.pow 10 k.toNat * i.den
  let unit := Nat.pow 10 (-k).toNat
  if i.closed then i.low * unit ≤ v && v ≤ i.high * unit else i.low * unit < v && v < i.high * unit

/-- Which of two neighbours at equal distance is taken. -/
inductive Tie
  | up
  | even
  deriving DecidableEq, Repr

/-- The upper neighbour is taken, for the lower one `c`. -/
def Tie.goesUp (t : Tie) (c : Nat) : Bool :=
  match t with
  | .up => true
  | .even => c % 2 == 1

/-- The nearest multiple of `10 ^ k` that lies in the interval. -/
def Interval.nearest? (tie : Tie) (i : Interval) (k : Int) : Option Decimal :=
  let num := i.mid * Nat.pow 10 (-k).toNat
  let den := i.den * Nat.pow 10 k.toNat
  let c := num / den
  let half := 2 * (num % den)
  let up := den < half || (den = half && tie.goesUp c)
  match i.holds k c, i.holds k (c + 1) with
  | true, true => some ⟨if up then c + 1 else c, k⟩
  | true, false => some ⟨c, k⟩
  | false, true => some ⟨c + 1, k⟩
  | false, false => none

/-- No trailing zero among the digits. -/
def trim (d : Decimal) : Decimal :=
  if h : d.digits ≠ 0 ∧ d.digits % 10 = 0 then trim ⟨d.digits / 10, d.exponent + 1⟩ else d
termination_by d.digits
decreasing_by exact Nat.div_lt_self (by omega) (by omega)

/-- The fewest digits that read back as the number, and of those the nearest. -/
def shortest (tie : Tie) (x : Binary64) : Decimal :=
  let i := Interval.around x
  let p := point i.mid i.den
  let found := (List.range 17).findSome? fun n : Nat => i.nearest? tie (p - (n + 1 : Nat))
  trim (found.getD ⟨0, 0⟩)

/-- As many zeros. -/
def zeros (n : Nat) : List Char :=
  List.replicate n '0'

/-- The digits with the point where it belongs, and no exponent. -/
def positional (d : Decimal) : List Char :=
  let ds := Nat.toDigits 10 d.digits
  let p := ds.length + d.exponent
  if 0 ≤ d.exponent then ds ++ zeros d.exponent.toNat
  else if 0 < p then ds.take p.toNat ++ '.' :: ds.drop p.toNat
  else '0' :: '.' :: zeros (-p).toNat ++ ds

/-- One digit before the point, and the exponent with its sign after the letter `e`. -/
def scientific (d : Decimal) : List Char :=
  let ds := Nat.toDigits 10 d.digits
  let e := ds.length + d.exponent - 1
  let sign := if e < 0 then ['-'] else ['+']
  let fraction := if ds.length ≤ 1 then [] else '.' :: ds.drop 1
  ds.take 1 ++ fraction ++ 'e' :: sign ++ Nat.toDigits 10 e.natAbs

/-- Positional from `0.00001` on and below `10 ^ 16`, always with a point; scientific outside. -/
def pointed (d : Decimal) : List Char :=
  let p := width d.digits + d.exponent
  if 0 ≤ d.exponent ∧ p ≤ 16 then positional d ++ ['.', '0']
  else if -5 < p ∧ p ≤ 16 then positional d
  else scientific d

end Decimal

namespace Binary64

/-- The sign, and the digits of a finite number in the given form; `zero` is the text of zero. -/
def write (zero : List Char) (tie : Decimal.Tie) (form : Decimal → List Char) (x : Binary64) : String :=
  let sign := if x.isNegative then ['-'] else []
  let body := if x.isZero then zero else form (Decimal.shortest tie x)
  String.ofList (sign ++ body)

/-- Shortest digits without an exponent, and no point in a whole number; a tie goes up. -/
def plain (x : Binary64) : String :=
  if x.isNaN then "NaN"
  else if x.isInfinite then (if x.isNegative then "-inf" else "inf")
  else x.write ['0'] .up Decimal.positional

/-- Shortest digits of a finite number with a point or an exponent; a tie goes to the even digit. -/
def pointed (x : Binary64) : String :=
  x.write ['0', '.', '0'] .even Decimal.pointed

end Binary64

end LinkedSelect
