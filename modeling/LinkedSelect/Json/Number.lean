import LinkedSelect.Binary64.Basic
import LinkedSelect.Json.Fault
import LinkedSelect.Json.Octet

/-!
# JSON numbers

An integer literal that fits 64 bits, signed or unsigned, is kept exactly; `-0`, larger integers and every literal
with a fraction or an exponent become binary floating point.

* `absorb` collects digits while the value stays below a bound;
* `scale` multiplies by a power of ten in floating point, so its result may differ from the nearest number in the
  last place; it has no result where the product is infinite;
* `readNumber` reads a literal after its sign;
* `skipNumber` passes over a literal after its sign whatever its size.
-/

namespace LinkedSelect.Json

/-- The value of a number literal. An integer lies between `-2 ^ 63` and `2 ^ 64`, the latter excluded. -/
inductive Number
  | integer (n : Int)
  | real (x : Binary64)
  deriving DecidableEq, Repr

/-- The least natural that takes more than 64 bits. -/
def wordBound : Nat :=
  0x10000000000000000

/-- The least natural that takes more than 63 bits. -/
def signedBound : Nat :=
  0x8000000000000000

/-- The least exponent that is not read as it is written. -/
def exponentBound : Nat :=
  0x80000000

/-- The digits at the front, by value. -/
def digitsOf (s : List UInt8) : List Nat :=
  (s.takeWhile isDigit).map (·.toNat - 48)

/-- The rest after the digits at the front. -/
def afterDigits (s : List UInt8) : List UInt8 :=
  s.dropWhile isDigit

/-- Appends digits to a value while it stays below the bound, and gives the digits left over. -/
def absorb (bound v : Nat) : List Nat → Nat × List Nat
  | [] => (v, [])
  | d :: ds => if v * 10 + d < bound then absorb bound (v * 10 + d) ds else (v, d :: ds)

/-- The number nearest to a power of ten. -/
def powerOfTen (k : Nat) : Binary64 :=
  .ofNat (Nat.pow 10 k)

/-- A number that is not negative times a power of ten. -/
def scale (f : Binary64) (e : Int) : Option Binary64 :=
  if 0 ≤ e then
    if e ≤ 308 then
      let p := f.mul (powerOfTen e.toNat)
      if p.isInfinite then none else some p
    else if f.isZero then some f
    else none
  else if -308 ≤ e then some (f.div (powerOfTen (-e).toNat))
  else if f.isZero then some f
  else scale (f.div (powerOfTen 308)) (e + 308)
termination_by (-e).toNat

/-- The value `v * 10 ^ e` of the literal that ends here. -/
def readScaled (v : Nat) (e : Int) (rest : List UInt8) : Parsed Binary64 :=
  match scale (.ofNat v) e with
  | some x => .ok (x, rest)
  | none => .error (.before .numberOutOfRange rest)

/-- The sign of an exponent, which is negative after a minus, and the rest. -/
def exponentSign : List UInt8 → Bool × List UInt8
  | [] => (false, [])
  | c :: r => if c = plus then (false, r) else if c = minus then (true, r) else (false, c :: r)

/-- Reads what follows the letter of an exponent. -/
def readExponent (v : Nat) (e : Int) (s : List UInt8) : Parsed Binary64 :=
  let (down, s) := exponentSign s
  match s with
  | [] => .error (.before .endInValue [])
  | c :: r =>
    if isDigit c then
      let rest := afterDigits s
      match absorb exponentBound 0 (digitsOf s) with
      | (x, []) => readScaled v (if down then e - x else e + x) rest
      | (_, _ :: extra) =>
        if v = 0 ∨ down then .ok (.ofMagnitude false 0, rest)
        else .error ⟨.numberOutOfRange, rest.length + extra.length⟩
    else .error (.before .invalidNumber r)

/-- Reads what follows the digits of a literal whose value so far is `v * 10 ^ e`. -/
def readTail (v : Nat) (e : Int) (rest : List UInt8) : Parsed Binary64 :=
  match rest with
  | [] => readScaled v e []
  | c :: r => if isExponentMark c then readExponent v e r else readScaled v e (c :: r)

/-- Reads what follows the point. -/
def readFraction (v : Nat) (e : Int) (s : List UInt8) : Parsed Binary64 :=
  let ds := digitsOf s
  if ds = [] then .error (.past (if s = [] then .endInValue else .invalidNumber) s)
  else
    let (v, extra) := absorb wordBound v ds
    readTail v (e - (ds.length - extra.length : Nat)) (afterDigits s)

/-- The value of an integer literal below `2 ^ 64`. -/
def Number.ofInteger (negative : Bool) (v : Nat) : Number :=
  if negative then
    if v = 0 ∨ signedBound < v then .real (Binary64.ofNat v).neg else .integer (-v)
  else .integer v

/-- The value of any other literal. -/
def Number.ofReal (negative : Bool) (x : Binary64) : Number :=
  .real (if negative then x.neg else x)

/-- A zero with another digit behind it. -/
def hasLeadingZero (s : List UInt8) : Bool :=
  match s with
  | c :: d :: _ => c == zero && isDigit d
  | _ => false

/-- The digits are followed by a point or an exponent. -/
def hasTail (rest : List UInt8) : Bool :=
  match rest with
  | c :: _ => c == point || isExponentMark c
  | [] => false

/-- Reads what follows the digits before the point. -/
def readReal (v : Nat) (e : Int) (rest : List UInt8) : Parsed Binary64 :=
  match rest with
  | [] => readScaled v e []
  | c :: r => if c = point then readFraction v e r else readTail v e (c :: r)

/-- Reads a literal after its sign. -/
def readNumber (negative : Bool) (s : List UInt8) : Parsed Number :=
  match s with
  | [] => .error (.before .endInValue [])
  | c :: r =>
    if !isDigit c then .error (.before .invalidNumber r)
    else if hasLeadingZero s then .error (.past .invalidNumber r)
    else
      let (v, extra) := absorb wordBound 0 (digitsOf s)
      let rest := afterDigits s
      if extra = [] ∧ !hasTail rest then .ok (.ofInteger negative v, rest)
      else (readReal v extra.length rest).map fun (x, r) => (.ofReal negative x, r)

/-- Passes over what follows the letter of an exponent. -/
def skipExponent (s : List UInt8) : Except Fault (List UInt8) :=
  match (exponentSign s).2 with
  | [] => .error (.before .invalidNumber [])
  | c :: r => if isDigit c then .ok (afterDigits r) else .error (.before .invalidNumber r)

/-- Passes over an exponent, if there is one. -/
def skipTail (s : List UInt8) : Except Fault (List UInt8) :=
  match s with
  | [] => .ok []
  | c :: r => if isExponentMark c then skipExponent r else .ok (c :: r)

/-- Passes over a literal after its sign. -/
def skipNumber (s : List UInt8) : Except Fault (List UInt8) :=
  match s with
  | [] => .error (.before .invalidNumber [])
  | c :: r =>
    if !isDigit c then .error (.before .invalidNumber r)
    else if hasLeadingZero s then .error (.past .invalidNumber r)
    else
      match afterDigits s with
      | [] => .ok []
      | d :: r =>
        if d = point then
          if digitsOf r = [] then .error (.past .invalidNumber r) else skipTail (afterDigits r)
        else skipTail (d :: r)

theorem length_afterDigits_le (s : List UInt8) : (afterDigits s).length ≤ s.length :=
  length_dropWhile_le isDigit s

theorem length_afterDigits_cons {c : UInt8} {r : List UInt8} (h : isDigit c = true) :
    (afterDigits (c :: r)).length ≤ r.length := by
  rw [afterDigits, List.dropWhile_cons_of_pos h]
  exact length_afterDigits_le r

theorem length_exponentSign_le (s : List UInt8) : (exponentSign s).2.length ≤ s.length := by
  unfold exponentSign
  split
  · simp
  · split <;> try split
    all_goals simp

theorem length_of_readScaled {v : Nat} {e : Int} {s r : List UInt8} {x : Binary64}
    (h : readScaled v e s = .ok (x, r)) : r.length ≤ s.length := by
  unfold readScaled at h
  split at h <;> cases h
  exact Nat.le_refl _

theorem length_of_readExponent {v : Nat} {e : Int} {s r : List UInt8} {x : Binary64}
    (h : readExponent v e s = .ok (x, r)) : r.length ≤ s.length := by
  unfold readExponent at h
  have hs := length_exponentSign_le s
  generalize exponentSign s = p at h hs
  obtain ⟨down, t⟩ := p
  have ht := length_afterDigits_le t
  dsimp only at h hs
  split at h
  · cases h
  · split at h
    · split at h
      · have := length_of_readScaled h
        omega
      · split at h <;> cases h
        omega
    · cases h

theorem length_of_readTail {v : Nat} {e : Int} {s r : List UInt8} {x : Binary64}
    (h : readTail v e s = .ok (x, r)) : r.length ≤ s.length := by
  unfold readTail at h
  split at h
  · exact length_of_readScaled h
  · split at h
    · have := length_of_readExponent h
      simp
      omega
    · exact length_of_readScaled h

theorem length_of_readFraction {v : Nat} {e : Int} {s r : List UInt8} {x : Binary64}
    (h : readFraction v e s = .ok (x, r)) : r.length ≤ s.length := by
  unfold readFraction at h
  dsimp only at h
  split at h
  · cases h
  · have := length_of_readTail h
    have := length_afterDigits_le s
    omega

theorem length_of_readReal {v : Nat} {e : Int} {s r : List UInt8} {x : Binary64}
    (h : readReal v e s = .ok (x, r)) : r.length ≤ s.length := by
  unfold readReal at h
  split at h
  · exact length_of_readScaled h
  · split at h
    · have := length_of_readFraction h
      simp
      omega
    · exact length_of_readTail h

theorem length_of_readNumber {negative : Bool} {s r : List UInt8} {n : Number}
    (h : readNumber negative s = .ok (n, r)) : r.length < s.length := by
  unfold readNumber at h
  split at h
  · cases h
  · next c t =>
    split at h
    · cases h
    · next hc =>
      have hl := length_afterDigits_cons (c := c) (r := t) (by simpa using hc)
      split at h
      · cases h
      · dsimp only at h
        split at h
        · cases h
          simp
          omega
        · obtain ⟨⟨x, q⟩, h₁, h⟩ := ok_of_map h
          cases h
          have := length_of_readReal h₁
          simp
          omega

theorem length_of_skipExponent {s r : List UInt8} (h : skipExponent s = .ok r) : r.length ≤ s.length := by
  unfold skipExponent at h
  have hs := length_exponentSign_le s
  split at h
  · cases h
  · next c t he =>
    rw [he] at hs
    split at h <;> cases h
    have := length_afterDigits_le t
    simp at hs
    omega

theorem length_of_skipTail {s r : List UInt8} (h : skipTail s = .ok r) : r.length ≤ s.length := by
  unfold skipTail at h
  split at h
  · cases h
    simp
  · split at h
    · have := length_of_skipExponent h
      simp
      omega
    · cases h
      simp

theorem length_of_skipNumber {s r : List UInt8} (h : skipNumber s = .ok r) : r.length < s.length := by
  unfold skipNumber at h
  split at h
  · cases h
  · next c t =>
    split at h
    · cases h
    · next hc =>
      have hl := length_afterDigits_cons (c := c) (r := t) (by simpa using hc)
      split at h
      · cases h
      · split at h
        · cases h
          simp
        · next d u he =>
          rw [he] at hl
          simp at hl
          split at h
          · split at h
            · cases h
            · have := length_of_skipTail h
              have := length_afterDigits_le u
              simp
              omega
          · have := length_of_skipTail h
            simp at this ⊢
            omega

end LinkedSelect.Json
