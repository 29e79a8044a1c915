import LinkedSelect.Json.Number
import LinkedSelect.Proofs.Json.Grammar

/-!
# Numbers are read as they are written

* A literal with neither point nor exponent is an integer, unless it is a zero behind a minus (`Literal.integer?`);
* any literal can be taken for a floating point number (`Literal.scaled?`). Its digits are collected below `2 ^ 64` as
  long as they fit: a whole digit that does not fit raises the exponent, and a digit behind the point that does not
  fit is dropped. What is collected is rounded, and then multiplied or divided by a power of ten, which rounds again;
* a literal is read as the integer that it is where 64 bits hold it, and as a floating point number otherwise
  (`readNumber_unsigned`), and it is passed over whatever its size (`skipNumber_unsigned`).
-/

namespace LinkedSelect.Json

/-! ## Digits and their value -/

/-- The value of digits that follow others of the value `v`. -/
def valueBehind (v : Nat) (ds : List (Fin 10)) : Nat :=
  ds.foldl (fun v (d : Fin 10) => v * 10 + d) v

/-- The value of digits. -/
def valueOf (ds : List (Fin 10)) : Nat :=
  valueBehind 0 ds

/-- The digits by value. -/
def digitValues (ds : List (Fin 10)) : List Nat :=
  ds.map Fin.val

theorem isDigit_digitOctet (d : Fin 10) : isDigit (digitOctet d) = true := by
  revert d
  decide

theorem value_digitOctet (d : Fin 10) : (digitOctet d).toNat - 48 = d := by
  revert d
  decide

theorem digitOctet_ne_of_not_isDigit {c : UInt8} (hc : isDigit c = false) (d : Fin 10) : digitOctet d ≠ c := by
  intro h
  rw [← h, isDigit_digitOctet] at hc
  cases hc

/-- What comes next is no digit. -/
def EndsDigits (r : List UInt8) : Prop :=
  ∀ c t, r = c :: t → isDigit c = false

theorem Delimited.endsDigits {r : List UInt8} (h : Delimited r) : EndsDigits r :=
  fun c t hr => (h c t hr).1

theorem endsDigits_cons {c : UInt8} (hc : isDigit c = false) (r : List UInt8) : EndsDigits (c :: r) := by
  rintro d t ⟨⟩
  exact hc

/-- Digits are found up to what ends them. -/
theorem digitsOf_append (ds : List (Fin 10)) {r : List UInt8} (hr : EndsDigits r) :
    digitsOf (ds.map digitOctet ++ r) = digitValues ds := by
  induction ds with
  | nil =>
    cases r with
    | nil => rfl
    | cons c r => simp [digitsOf, digitValues, hr c r rfl]
  | cons d ds ih =>
    simp only [digitsOf, digitValues, List.map_cons, List.cons_append,
      List.takeWhile_cons_of_pos (isDigit_digitOctet d), value_digitOctet] at ih ⊢
    rw [ih]

/-- Digits are passed over up to what ends them. -/
theorem afterDigits_append (ds : List (Fin 10)) {r : List UInt8} (hr : EndsDigits r) :
    afterDigits (ds.map digitOctet ++ r) = r := by
  induction ds with
  | nil =>
    cases r with
    | nil => rfl
    | cons c r => simp [afterDigits, hr c r rfl]
  | cons d ds ih =>
    simpa only [afterDigits, List.map_cons, List.cons_append,
      List.dropWhile_cons_of_pos (isDigit_digitOctet d)] using ih

/-- More digits do not make a value smaller. -/
theorem le_valueBehind (v : Nat) (ds : List (Fin 10)) : v ≤ valueBehind v ds := by
  induction ds generalizing v with
  | nil => exact Nat.le_refl v
  | cons d ds ih => exact Nat.le_trans (by omega) (ih (v * 10 + d))

/-- Digits whose value stays below the bound are all collected. -/
theorem absorb_of_lt {bound v : Nat} (ds : List (Fin 10)) (h : valueBehind v ds < bound) :
    absorb bound v (digitValues ds) = (valueBehind v ds, []) := by
  induction ds generalizing v with
  | nil => rfl
  | cons d ds ih =>
    have hd : v * 10 + d < bound := Nat.lt_of_le_of_lt (le_valueBehind _ ds) h
    rw [digitValues, List.map_cons, absorb, if_pos hd]
    exact ih h

/-- Digits whose value reaches the bound are not all collected. -/
theorem absorb_of_le {bound v : Nat} (ds : List (Fin 10)) (hv : v < bound) (h : bound ≤ valueBehind v ds) :
    ∃ w d left, absorb bound v (digitValues ds) = (w, d :: left) := by
  induction ds generalizing v with
  | nil => exact absurd h (Nat.not_le.mpr hv)
  | cons d ds ih =>
    rw [digitValues, List.map_cons, absorb]
    by_cases hd : v * 10 + d < bound
    · rw [if_pos hd]
      exact ih hd h
    · rw [if_neg hd]
      exact ⟨v, d, _, rfl⟩

/-! ## What a literal stands for -/

/-- The value of an exponent without its sign. -/
def Exponent.value (x : Exponent) : Nat :=
  valueOf x.digits

/-- The sign of an exponent is a minus. -/
def Exponent.isDown (x : Exponent) : Bool :=
  x.sign == some true

/-- The number `v * 10 ^ e` raised by an exponent, if it is not too large. -/
def raise? (v : Nat) (e : Int) : Option Exponent → Option Binary64
  | none => scale (.ofNat v) e
  | some x =>
    if x.value < exponentBound then scale (.ofNat v) (if x.isDown then e - x.value else e + x.value)
    else if v = 0 ∨ x.isDown then some (.ofMagnitude false 0)
    else none

namespace Literal

/-- Neither a point nor an exponent is written. -/
def isWhole (l : Literal) : Bool :=
  l.fraction.isEmpty && l.exponent.isNone

/-- The integer that is written; a zero behind a minus is none. -/
def integer? (l : Literal) : Option Int :=
  if l.isWhole ∧ ¬(l.negative ∧ valueOf l.whole = 0) then
    some (if l.negative then -valueOf l.whole else valueOf l.whole)
  else none

/-- The number that the digits and the exponent give, if it is not too large. -/
def magnitude? (l : Literal) : Option Binary64 :=
  let (v, extra) := absorb wordBound 0 (digitValues l.whole)
  let (w, left) := absorb wordBound v (digitValues l.fraction)
  raise? w (extra.length - (l.fraction.length - left.length : Nat)) l.exponent

/-- A floating point number of the sign that is written. -/
def withSign (l : Literal) (x : Binary64) : Binary64 :=
  if l.negative then x.neg else x

/-- The floating point number for a literal, if it is not too large. -/
def scaled? (l : Literal) : Option Binary64 :=
  if l.isWhole ∧ valueOf l.whole < wordBound then some (l.withSign (.ofNat (valueOf l.whole)))
  else l.magnitude?.map l.withSign

/-- The number that a literal is read as, if it is not too large. -/
def number? (l : Literal) : Option Number :=
  if l.isWhole ∧ valueOf l.whole < wordBound then some (.ofInteger l.negative (valueOf l.whole))
  else l.magnitude?.map (.ofReal l.negative)

end Literal

/-! ## Reading -/

theorem toOption_map {ε α β : Type} (x : Except ε α) (f : α → β) : (x.map f).toOption = x.toOption.map f := by
  cases x <;> rfl

theorem toOption_eq_some {ε α : Type} {x : Except ε α} {a : α} : x.toOption = some a ↔ x = .ok a := by
  cases x <;> simp [Except.toOption]

theorem readScaled_toOption (v : Nat) (e : Int) (r : List UInt8) :
    (readScaled v e r).toOption = (scale (.ofNat v) e).map (·, r) := by
  unfold readScaled
  split
  · next h => rw [h]; rfl
  · next h => rw [h]; rfl

/-- The letter of an exponent is one. -/
theorem Exponent.isExponentMark_letter (x : Exponent) : isExponentMark (if x.capital then 69 else 101) = true := by
  cases x.capital <;> decide

/-- The sign of an exponent is found, be it written or not. -/
theorem exponentSign_append (x : Exponent) (r : List UInt8) :
    exponentSign (x.signOctets ++ (x.digits.map digitOctet ++ r)) = (x.isDown, x.digits.map digitOctet ++ r) := by
  obtain ⟨capital, sign, digits, hd⟩ := x
  rcases sign with _ | _ | _
  · cases digits with
    | nil => exact absurd rfl hd
    | cons d ds =>
      simp only [Exponent.signOctets, List.nil_append, List.map_cons, List.cons_append, exponentSign]
      rw [if_neg (digitOctet_ne_of_not_isDigit (by decide) d), if_neg (digitOctet_ne_of_not_isDigit (by decide) d)]
      rfl
  · rfl
  · rfl

/-- Digits that are not missing begin with one. -/
theorem map_digitOctet_append {ds : List (Fin 10)} (h : ds ≠ []) (r : List UInt8) :
    ∃ c t, ds.map digitOctet ++ r = c :: t ∧ isDigit c = true := by
  cases ds with
  | nil => exact absurd rfl h
  | cons d ds => exact ⟨_, _, rfl, isDigit_digitOctet d⟩

theorem readExponent_toOption (v : Nat) (e : Int) (x : Exponent) {r : List UInt8} (hr : EndsDigits r) :
    (readExponent v e (x.signOctets ++ (x.digits.map digitOctet ++ r))).toOption =
      (raise? v e (some x)).map (·, r) := by
  obtain ⟨c, t, hs, hc⟩ := map_digitOctet_append x.nonempty r
  have hds := digitsOf_append x.digits hr
  have hrest := afterDigits_append x.digits hr
  rw [hs] at hds hrest
  rw [readExponent, exponentSign_append, hs]
  simp only [hc, if_true, hds, hrest, raise?]
  by_cases hlt : x.value < exponentBound
  · rw [absorb_of_lt x.digits hlt, if_pos hlt]
    exact readScaled_toOption v _ r
  · obtain ⟨w, d, left, ha⟩ := absorb_of_le x.digits (by decide) (Nat.not_lt.mp hlt)
    rw [ha, if_neg hlt]
    dsimp only
    split <;> rfl

namespace Literal

variable (l : Literal)

/-- The exponent or what follows the number ends the digits in front, and is no point. -/
theorem exponentOctets_append_ends {r : List UInt8} (hr : Delimited r) {c : UInt8} {t : List UInt8}
    (h : l.exponentOctets ++ r = c :: t) : isDigit c = false ∧ c ≠ point := by
  rw [exponentOctets] at h
  cases hx : l.exponent with
  | none =>
    rw [hx] at h
    exact ⟨(hr c t h).1, (hr c t h).2.1⟩
  | some x =>
    rw [hx] at h
    cases h
    cases x.capital <;> decide

/-- What follows the whole digits ends them. -/
theorem fractionOctets_append_ends {r : List UInt8} (hr : Delimited r) :
    EndsDigits (l.fractionOctets ++ (l.exponentOctets ++ r)) := by
  rw [fractionOctets]
  split
  · exact fun c t h => (l.exponentOctets_append_ends hr h).1
  · exact endsDigits_cons (by decide) _

theorem readTail_toOption (v : Nat) (e : Int) {r : List UInt8} (hr : Delimited r) :
    (readTail v e (l.exponentOctets ++ r)).toOption = (raise? v e l.exponent).map (·, r) := by
  rw [exponentOctets]
  cases l.exponent with
  | none =>
    cases r with
    | nil => exact readScaled_toOption v e []
    | cons c t =>
      simp only [List.nil_append, readTail, (hr c t rfl).2.2, Bool.false_eq_true, if_false]
      exact readScaled_toOption v e _
  | some x =>
    simp only [Exponent.octets, List.cons_append, List.append_assoc, readTail, x.isExponentMark_letter, if_true]
    exact readExponent_toOption v e x hr.endsDigits

/-- What follows the whole digits is read as their fraction and their exponent. -/
theorem readReal_toOption (v : Nat) (e : Int) {r : List UInt8} (hr : Delimited r) {w : Nat} {left : List Nat}
    (hw : absorb wordBound v (digitValues l.fraction) = (w, left)) :
    (readReal v e (l.fractionOctets ++ (l.exponentOctets ++ r))).toOption =
      (raise? w (e - (l.fraction.length - left.length : Nat)) l.exponent).map (·, r) := by
  rw [fractionOctets]
  by_cases hf : l.fraction = []
  · have here : readReal v e (l.exponentOctets ++ r) = readTail v e (l.exponentOctets ++ r) := by
      cases ht : l.exponentOctets ++ r with
      | nil => rfl
      | cons c t => rw [readReal, if_neg (l.exponentOctets_append_ends hr ht).2]
    rw [hf] at hw
    cases hw
    rw [if_pos hf, List.nil_append, here, readTail_toOption l v e hr, hf]
    simp
  · have ends : EndsDigits (l.exponentOctets ++ r) := fun c t h => (l.exponentOctets_append_ends hr h).1
    have some_digit : digitValues l.fraction ≠ [] := fun h => hf (List.map_eq_nil_iff.mp h)
    have hlen : (digitValues l.fraction).length = l.fraction.length := List.length_map Fin.val
    rw [if_neg hf, List.cons_append, readReal, if_pos rfl, readFraction, digitsOf_append _ ends,
      afterDigits_append _ ends]
    simp only [some_digit, if_false, hw, hlen]
    exact readTail_toOption l _ _ hr

/-- No zero stands in front of another digit. -/
theorem hasLeadingZero_append {r : List UInt8} (hr : EndsDigits r) :
    hasLeadingZero (l.whole.map digitOctet ++ r) = false := by
  rcases l.whole_form with h | ⟨d, ds, h, hd⟩
  · rw [h]
    cases r with
    | nil => rfl
    | cons c r => simp [hasLeadingZero, hr c r rfl]
  · have hz : (digitOctet d == zero) = false := by
      clear h
      revert d
      decide
    rw [h, List.map_cons, List.cons_append]
    cases ds.map digitOctet ++ r with
    | nil => rfl
    | cons c t => simp only [hasLeadingZero, hz, Bool.false_and]

/-- A point or an exponent follows the whole digits unless the literal ends there. -/
theorem hasTail_append {r : List UInt8} (hr : Delimited r) :
    hasTail (l.fractionOctets ++ (l.exponentOctets ++ r)) = !l.isWhole := by
  rw [fractionOctets, exponentOctets, isWhole]
  cases l.fraction with
  | cons d ds => rfl
  | nil =>
    cases l.exponent with
    | some x =>
      simp [hasTail, Exponent.octets, x.isExponentMark_letter]
    | none =>
      cases r with
      | nil => rfl
      | cons c r => simp [hasTail, (hr c r rfl).2.1, (hr c r rfl).2.2]

theorem whole_ne_nil : l.whole ≠ [] := by
  rcases l.whole_form with h | ⟨d, ds, h, -⟩ <;> simp [h]

/-- The literal ends with its whole digits. -/
theorem octets_of_isWhole (h : l.isWhole) : l.fractionOctets = [] ∧ l.exponentOctets = [] := by
  simp only [isWhole, Bool.and_eq_true, List.isEmpty_iff, Option.isNone_iff_eq_none] at h
  simp [fractionOctets, exponentOctets, h.1, h.2]

/-- A literal is read behind its sign as the number that it stands for. -/
theorem readNumber_toOption {r : List UInt8} (hr : Delimited r) :
    (readNumber l.negative (l.unsigned ++ r)).toOption = l.number?.map (·, r) := by
  obtain ⟨c, t, hs, hc⟩ := map_digitOctet_append l.whole_ne_nil (l.fractionOctets ++ (l.exponentOctets ++ r))
  have ends := l.fractionOctets_append_ends hr
  have hds := digitsOf_append l.whole ends
  have hrest := afterDigits_append l.whole ends
  have hzero := l.hasLeadingZero_append ends
  have htail := l.hasTail_append hr
  have real {v : Nat} {extra : List Nat} (h : absorb wordBound 0 (digitValues l.whole) = (v, extra)) :
      ((readReal v extra.length (l.fractionOctets ++ (l.exponentOctets ++ r))).map
        fun p => (Number.ofReal l.negative p.1, p.2)).toOption =
      (l.magnitude?.map (Number.ofReal l.negative)).map (·, r) := by
    rw [toOption_map, readReal_toOption l _ _ hr rfl, magnitude?, h]
    simp only [Option.map_map]
    rfl
  rw [unsigned, List.append_assoc, List.append_assoc]
  rw [hs] at hds hrest hzero ⊢
  rw [readNumber]
  simp only [hc, hzero, hds, hrest, htail, Bool.not_true, Bool.false_eq_true, if_false, Bool.not_not, number?]
  by_cases hv : valueOf l.whole < wordBound
  · have collected := absorb_of_lt l.whole hv
    by_cases hw : l.isWhole
    · obtain ⟨hf, he⟩ := l.octets_of_isWhole hw
      rw [if_pos ⟨congrArg Prod.snd collected, hw⟩, if_pos ⟨hw, hv⟩, collected, hf, he]
      rfl
    · rw [if_neg fun h => hw h.2, if_neg fun h => hw h.1]
      exact real rfl
  · obtain ⟨w, d, left, collected⟩ := absorb_of_le l.whole (by decide) (Nat.not_lt.mp hv)
    have uncollected : (absorb wordBound 0 (digitValues l.whole)).2 ≠ [] := by
      rw [collected]
      exact List.cons_ne_nil d left
    rw [if_neg fun h => uncollected h.1, if_neg fun h => hv h.2]
    exact real rfl

/-- What is read behind the sign of a literal. -/
theorem readNumber_eq_ok {r q : List UInt8} (hr : Delimited r) {n : Number} :
    readNumber l.negative (l.unsigned ++ r) = .ok (n, q) ↔ l.number? = some n ∧ q = r := by
  rw [← toOption_eq_some, l.readNumber_toOption hr]
  simp only [Option.map_eq_some_iff, Prod.mk.injEq]
  constructor
  · rintro ⟨m, hm, rfl, rfl⟩
    exact ⟨hm, rfl⟩
  · rintro ⟨hn, rfl⟩
    exact ⟨n, hn, rfl, rfl⟩

/-! ## Passing over -/

theorem skipTail_append {r : List UInt8} (hr : Delimited r) : skipTail (l.exponentOctets ++ r) = .ok r := by
  rw [exponentOctets]
  cases l.exponent with
  | none =>
    cases r with
    | nil => rfl
    | cons c t =>
      rw [List.nil_append, skipTail, if_neg (by rw [(hr c t rfl).2.2]; decide)]
  | some x =>
    obtain ⟨c, t, hs, hc⟩ := map_digitOctet_append x.nonempty r
    have hrest := afterDigits_append x.digits hr.endsDigits
    rw [hs, afterDigits, List.dropWhile_cons_of_pos hc] at hrest
    simp only [Exponent.octets, List.cons_append, List.append_assoc, skipTail, x.isExponentMark_letter, if_true]
    rw [skipExponent, exponentSign_append, hs]
    simp only [hc, if_true, afterDigits, hrest]

/-- A literal is passed over behind its sign. -/
theorem skipNumber_append {r : List UInt8} (hr : Delimited r) : skipNumber (l.unsigned ++ r) = .ok r := by
  obtain ⟨c, t, hs, hc⟩ := map_digitOctet_append l.whole_ne_nil (l.fractionOctets ++ (l.exponentOctets ++ r))
  have ends := l.fractionOctets_append_ends hr
  have hrest := afterDigits_append l.whole ends
  have hzero := l.hasLeadingZero_append ends
  rw [unsigned, List.append_assoc, List.append_assoc]
  rw [hs] at hrest hzero ⊢
  rw [skipNumber]
  simp only [hc, hzero, hrest, Bool.not_true, Bool.false_eq_true, if_false]
  have passed := l.skipTail_append hr
  rw [fractionOctets]
  by_cases hf : l.fraction = []
  · rw [if_pos hf, List.nil_append]
    cases ht : l.exponentOctets ++ r with
    | nil =>
      rw [ht] at passed
      exact passed
    | cons c t =>
      rw [ht] at passed
      dsimp only
      rw [if_neg (l.exponentOctets_append_ends hr ht).2]
      exact passed
  · have behind : EndsDigits (l.exponentOctets ++ r) := fun c t h => (l.exponentOctets_append_ends hr h).1
    have some_digit : digitValues l.fraction ≠ [] := fun h => hf (List.map_eq_nil_iff.mp h)
    rw [if_neg hf, List.cons_append]
    dsimp only
    rw [if_pos rfl, digitsOf_append _ behind, if_neg some_digit, afterDigits_append _ behind]
    exact passed

end Literal

end LinkedSelect.Json
