import LinkedSelect.Proofs.Json.Numbers
import LinkedSelect.Proofs.Json.Scaling

/-!
# Which floating point number a literal is read as

* The value of a literal (`Literal.size`) is that of its digits, times a power of ten. Its digits are collected as long
  as they fit, so what is collected of them is near their value, and equal to it if all fit (`Literal.exists_raise`).
* `Literal.scales`: the literal is read as a number near its value, unless it is too large; one of few digits near the
  point is read as the nearest number (`Literal.nearest?`).
-/

namespace LinkedSelect.Json

open Binary64 (overflowBound two_zpow_le two_zpow_pos)

/-! ## What is collected -/

theorem valueBehind_append (v : ℕ) (ds ds' : List (Fin 10)) :
    valueBehind v (ds ++ ds') = valueBehind (valueBehind v ds) ds' :=
  List.foldl_append

theorem valueBehind_bounds (v : ℕ) (ds : List (Fin 10)) :
    v * 10 ^ ds.length ≤ valueBehind v ds ∧ valueBehind v ds + 1 ≤ (v + 1) * 10 ^ ds.length := by
  induction ds generalizing v with
  | nil => simp [valueBehind]
  | cons d ds ih =>
    obtain ⟨low, high⟩ := ih (v * 10 + d)
    have hd : (d : ℕ) < 10 := d.isLt
    have hlow : v * 10 * 10 ^ ds.length ≤ (v * 10 + d) * 10 ^ ds.length := Nat.mul_le_mul_right _ (by omega)
    have hhigh : (v * 10 + d + 1) * 10 ^ ds.length ≤ (v + 1) * 10 * 10 ^ ds.length := Nat.mul_le_mul_right _ (by omega)
    rw [List.length_cons, pow_succ', ← Nat.mul_assoc, ← Nat.mul_assoc]
    exact ⟨hlow.trans low, high.trans hhigh⟩

/-- Digits behind others change their value by less than one, in its last place. -/
theorem valueBehind_between (v : ℕ) (ds : List (Fin 10)) (k : ℤ) :
    (v : ℚ) * 10 ^ (k + ds.length) ≤ valueBehind v ds * 10 ^ k ∧
      (valueBehind v ds : ℚ) * 10 ^ k ≤ (v + 1) * 10 ^ (k + ds.length) := by
  obtain ⟨low, high⟩ := valueBehind_bounds v ds
  have low : (v : ℚ) * 10 ^ ds.length ≤ valueBehind v ds := by exact_mod_cast low
  have high : (valueBehind v ds : ℚ) + 1 ≤ (v + 1) * 10 ^ ds.length := by exact_mod_cast high
  have hk : (0 : ℚ) < 10 ^ k := by positivity
  rw [zpow_add₀ (by norm_num), zpow_natCast, mul_comm (10 ^ k), ← mul_assoc, ← mul_assoc]
  exact ⟨mul_le_mul_of_nonneg_right low hk.le, mul_le_mul_of_nonneg_right (by linarith) hk.le⟩

/-- Digits are collected up to the first that does not fit. -/
theorem exists_absorb {bound v : ℕ} (ds : List (Fin 10)) (hv : v < bound) :
    ∃ taken dropped, ds = taken ++ dropped ∧
      absorb bound v (digitValues ds) = (valueBehind v taken, digitValues dropped) ∧
      valueBehind v taken < bound ∧ (dropped = [] ∨ bound ≤ valueBehind v taken * 10 + 9) := by
  induction ds generalizing v with
  | nil => exact ⟨[], [], rfl, rfl, hv, .inl rfl⟩
  | cons d ds ih =>
    rw [digitValues, List.map_cons, absorb]
    by_cases hd : v * 10 + d < bound
    · obtain ⟨taken, dropped, rfl, ha, hlt, hor⟩ := ih hd
      rw [if_pos hd]
      exact ⟨d :: taken, dropped, rfl, ha, hlt, hor⟩
    · rw [if_neg hd]
      refine ⟨[], d :: ds, rfl, rfl, hv, .inr ?_⟩
      have : (d : ℕ) < 10 := d.isLt
      show bound ≤ v * 10 + 9
      omega

/-- Two values that begin with the same digits are near each other. -/
theorem near_of_between {a c : ℚ} {b : ℕ} {k : ℤ} (hb : wordBound ≤ b * 10 + 9)
    (ha : b * 10 ^ k ≤ a ∧ a ≤ (b + 1) * 10 ^ k) (hc : b * 10 ^ k ≤ c ∧ c ≤ (b + 1) * 10 ^ k) :
    |a - c| ≤ c / 2 ^ 60 := by
  have hb : 2 ^ 60 ≤ b := by
    have : 2 ^ 60 * 10 + 9 ≤ wordBound := by decide
    omega
  have hb : (2 : ℚ) ^ 60 ≤ b := by exact_mod_cast hb
  have hk : (0 : ℚ) < 10 ^ k := by positivity
  have step : |a - c| ≤ 10 ^ k := abs_le.mpr ⟨by linarith [ha.1, hc.2], by linarith [ha.2, hc.1]⟩
  rw [le_div_iff₀ (by positivity)]
  calc |a - c| * 2 ^ 60 ≤ 10 ^ k * b := mul_le_mul step hb (by positivity) hk.le
    _ ≤ c := by rw [mul_comm]; exact hc.1

/-! ## Literals and their values -/

namespace Literal

variable {l : Literal}

/-- The number of digits behind the point, taken off the exponent. -/
def place (l : Literal) : Int :=
  (match l.exponent with
    | none => 0
    | some x => if x.isDown then -x.value else x.value) - l.fraction.length

/-- The value of a literal, without its sign. -/
def size (l : Literal) : ℚ :=
  valueOf (l.whole ++ l.fraction) * 10 ^ l.place

/-- The floating point number nearest to a literal, if it is finite. -/
def nearest? (l : Literal) : Option Binary64 :=
  let x := Binary64.ofRatio l.negative (valueOf (l.whole ++ l.fraction) * 10 ^ l.place.toNat) (10 ^ (-l.place).toNat)
  if x.isInfinite then none else some x

theorem size_nonneg (l : Literal) : 0 ≤ l.size :=
  mul_nonneg (Nat.cast_nonneg _) (by positivity)

theorem size_eq_div (l : Literal) :
    l.size = ((valueOf (l.whole ++ l.fraction) * 10 ^ l.place.toNat : ℕ) : ℚ) / (10 ^ (-l.place).toNat : ℕ) := by
  rw [size, Binary64.zpow_eq_div (by norm_num), mul_div_assoc']
  push_cast
  rfl

/-- A literal has a nearest finite number unless it is too large. -/
theorem nearest?_eq_none_iff : l.nearest? = none ↔ overflowBound ≤ l.size := by
  rw [size_eq_div, ← Binary64.isInfinite_ofRatio_iff l.negative _ (by positivity), nearest?]
  split
  · next h => simp [h]
  · next h => simp [h]

theorem nearest?_eq_some (h : l.size < overflowBound) :
    l.nearest? = some (.ofRatio l.negative (valueOf (l.whole ++ l.fraction) * 10 ^ l.place.toNat)
      (10 ^ (-l.place).toNat)) := by
  rw [size_eq_div, ← not_le, ← Binary64.isInfinite_ofRatio_iff l.negative _ (by positivity)] at h
  exact if_neg h

theorem isNearest_of_nearest? {x : Binary64} (h : l.nearest? = some x) : x.IsNearest l.negative l.size := by
  have hlt : l.size < overflowBound := not_le.mp fun hle => by
    rw [nearest?_eq_none_iff.mpr hle] at h
    cases h
  rw [nearest?_eq_some hlt] at h
  cases h
  rw [size_eq_div] at hlt ⊢
  exact Binary64.isNearest_ofRatio _ _ (by positivity) hlt

theorem valueOf_digits (l : Literal) :
    valueOf (l.whole ++ l.fraction) = valueBehind (valueOf l.whole) l.fraction :=
  valueBehind_append 0 l.whole l.fraction

/-- If all digits fit, they are collected. -/
theorem magnitude?_of_lt (h : valueOf (l.whole ++ l.fraction) < wordBound) :
    l.magnitude? = raise? (valueOf (l.whole ++ l.fraction)) (-l.fraction.length) l.exponent := by
  rw [valueOf_digits] at h ⊢
  have hwhole : valueOf l.whole < wordBound := (le_valueBehind _ _).trans_lt h
  rw [magnitude?, absorb_of_lt l.whole hwhole]
  dsimp only
  rw [← valueOf, absorb_of_lt l.fraction h]
  simp

/-- If some do not, what is collected is near them. -/
theorem exists_raise_of_ge (h : wordBound ≤ valueOf (l.whole ++ l.fraction)) :
    ∃ (w : ℕ) (e : ℤ), l.magnitude? = raise? w e l.exponent ∧ w < wordBound ∧
      |(w : ℚ) * 10 ^ e - valueOf (l.whole ++ l.fraction) * 10 ^ (-l.fraction.length : ℤ)| ≤
        valueOf (l.whole ++ l.fraction) * 10 ^ (-l.fraction.length : ℤ) / 2 ^ 60 := by
  obtain ⟨taken, dropped, hwhole, ha, hlt, hor⟩ := exists_absorb l.whole (show 0 < wordBound by decide)
  obtain ⟨taken', dropped', hfrac, ha', hlt', hor'⟩ := exists_absorb l.fraction hlt
  have hlen : l.fraction.length = taken'.length + dropped'.length := by rw [hfrac, List.length_append]
  refine ⟨valueBehind (valueBehind 0 taken) taken', dropped.length - taken'.length, ?_, hlt', ?_⟩
  · rw [magnitude?, ha]
    dsimp only
    rw [ha', digitValues, digitValues, List.length_map, List.length_map, hlen, Nat.add_sub_cancel]
  rcases hor with rfl | hfull
  · -- all digits in front of the point fit, so some behind it do not
    rw [List.append_nil] at hwhole
    have hfull := hor'.resolve_left fun hnil => by
      rw [hnil, List.append_nil] at hfrac
      rw [valueOf_digits, hwhole, hfrac] at h
      exact absurd hlt' (Nat.not_lt.mpr h)
    have hc := valueBehind_between (valueBehind (valueBehind 0 taken) taken') dropped' (-l.fraction.length)
    rw [← valueBehind_append _ taken', ← hfrac, ← hwhole, ← valueOf, ← valueOf_digits, hlen] at hc
    rw [hlen]
    refine near_of_between (k := -taken'.length) (hwhole ▸ hfull) ?_ ?_
    · rw [List.length_nil, Nat.cast_zero, zero_sub, hwhole]
      exact ⟨le_rfl, mul_le_mul_of_nonneg_right (by linarith) (by positivity)⟩
    · rw [show (-((taken'.length + dropped'.length : ℕ) : ℤ) + dropped'.length) = -taken'.length by
        push_cast; ring] at hc
      exact hc
  · -- what is taken and what the literal has both begin with the digits that fit
    have ha := valueBehind_between (valueBehind 0 taken) taken' (dropped.length - taken'.length)
    have hc := valueBehind_between (valueBehind 0 taken) (dropped ++ l.fraction) (-l.fraction.length)
    rw [← valueBehind_append, ← List.append_assoc, ← hwhole, ← valueOf, List.length_append] at hc
    rw [sub_add_cancel] at ha
    rw [show (-(l.fraction.length : ℤ) + (dropped.length + l.fraction.length : ℕ)) = dropped.length by
      push_cast; ring] at hc
    exact near_of_between hfull ha hc

/-- What is collected is near the digits of a literal, and it is all of them if they fit. -/
theorem exists_raise (l : Literal) :
    ∃ (w : ℕ) (e : ℤ), l.magnitude? = raise? w e l.exponent ∧ w < wordBound ∧
      |(w : ℚ) * 10 ^ e - valueOf (l.whole ++ l.fraction) * 10 ^ (-l.fraction.length : ℤ)| ≤
        valueOf (l.whole ++ l.fraction) * 10 ^ (-l.fraction.length : ℤ) / 2 ^ 60 ∧
      (valueOf (l.whole ++ l.fraction) < wordBound →
        w = valueOf (l.whole ++ l.fraction) ∧ e = -l.fraction.length) := by
  rcases Nat.lt_or_ge (valueOf (l.whole ++ l.fraction)) wordBound with hall | hmore
  · refine ⟨_, _, magnitude?_of_lt hall, hall, ?_, fun _ => ⟨rfl, rfl⟩⟩
    rw [sub_self, abs_zero]
    positivity
  · obtain ⟨w, e, hm, hw, hnear⟩ := exists_raise_of_ge hmore
    exact ⟨w, e, hm, hw, hnear, fun h => absurd h (Nat.not_lt.mpr hmore)⟩

/-- A common factor keeps values near each other. -/
theorem near_shift {a c : ℚ} {e k : ℤ} (h : |a * 10 ^ e - c * 10 ^ k| ≤ c * 10 ^ k / 2 ^ 60) (s : ℤ) :
    |a * 10 ^ (e + s) - c * 10 ^ (k + s)| ≤ c * 10 ^ (k + s) / 2 ^ 60 := by
  have hs : (0 : ℚ) < 10 ^ s := by positivity
  rw [zpow_add₀ (by norm_num), zpow_add₀ (by norm_num), ← mul_assoc, ← mul_assoc, ← sub_mul, abs_mul, abs_of_pos hs,
    mul_div_right_comm]
  exact mul_le_mul_of_nonneg_right h hs.le

/-- A literal with an exponent that can be read is what is collected of it, scaled. -/
theorem exists_scale_of_small (h : ∀ x, l.exponent = some x → x.value < exponentBound) :
    ∃ (w : ℕ) (e : ℤ), l.magnitude? = scale (.ofNat w) e ∧ w < wordBound ∧
      |(w : ℚ) * 10 ^ e - l.size| ≤ l.size / 2 ^ 60 ∧
      (valueOf (l.whole ++ l.fraction) < wordBound → w = valueOf (l.whole ++ l.fraction) ∧ e = l.place) := by
  obtain ⟨w, e, hm, hw, hnear, hall⟩ := l.exists_raise
  cases hx : l.exponent with
  | none =>
    have hplace : l.place = -l.fraction.length := by rw [place, hx, zero_sub]
    refine ⟨w, e, by rw [hm, hx, raise?], hw, ?_, fun hv => hplace ▸ hall hv⟩
    rw [size, hplace]
    exact hnear
  | some x =>
    obtain ⟨s, hs⟩ : ∃ s : ℤ, s = if x.isDown then -(x.value : ℤ) else x.value := ⟨_, rfl⟩
    have hplace : l.place = -l.fraction.length + s := by
      rw [place, hx, hs]
      ring
    refine ⟨w, e + s, ?_, hw, ?_, fun hv => ?_⟩
    · rw [hm, hx, raise?, if_pos (h x hx), hs]
      split <;> rfl
    · rw [size, hplace]
      exact near_shift hnear s
    · rw [hplace, ← (hall hv).2]
      exact ⟨(hall hv).1, rfl⟩

/-- An exponent that cannot be read gives zero or nothing. -/
theorem magnitude?_of_large {x : Exponent} (hx : l.exponent = some x) (h : exponentBound ≤ x.value) :
    l.magnitude? =
      if valueOf (l.whole ++ l.fraction) = 0 ∨ x.isDown then some (.ofMagnitude false 0) else none := by
  obtain ⟨w, e, hm, -, hnear, hall⟩ := l.exists_raise
  have hzero : w = 0 ↔ valueOf (l.whole ++ l.fraction) = 0 := by
    constructor
    · rintro rfl
      rw [Nat.cast_zero, zero_mul, zero_sub, abs_neg, abs_of_nonneg (by positivity)] at hnear
      have hk : (0 : ℚ) < 10 ^ (-l.fraction.length : ℤ) := by positivity
      have : (valueOf (l.whole ++ l.fraction) : ℚ) * 10 ^ (-l.fraction.length : ℤ) ≤ 0 := by linarith
      have := nonpos_of_mul_nonpos_left this hk
      exact_mod_cast le_antisymm this (Nat.cast_nonneg _)
    · intro hv
      rw [(hall (by rw [hv]; decide)).1, hv]
  rw [hm, hx, raise?, if_neg (Nat.not_lt.mpr h)]
  simp only [hzero]

/-! ## The conversion of literals -/

/-- With few digits, a literal whose negative exponent cannot be read is next to nothing. -/
theorem size_of_large_down {x : Exponent} (hx : l.exponent = some x) (h : exponentBound ≤ x.value)
    (hdown : x.isDown = true) (hl : (l.whole ++ l.fraction).length ≤ 2 ^ 30) : l.size ≤ underflow := by
  have hv : (valueOf (l.whole ++ l.fraction) : ℚ) ≤ 10 ^ (l.whole ++ l.fraction).length := by
    have := (valueBehind_bounds 0 (l.whole ++ l.fraction)).2
    rw [zero_add, one_mul] at this
    exact_mod_cast (Nat.le_succ _).trans this
  have hplace : l.place = -x.value - l.fraction.length := by rw [place, hx]; simp [hdown]
  have hbound : exponentBound = 2 ^ 31 := by decide
  calc l.size ≤ 10 ^ (l.whole ++ l.fraction).length * 10 ^ l.place := by
        rw [size]
        gcongr
    _ = (1 : ℕ) * 10 ^ ((l.whole ++ l.fraction).length + l.place : ℤ) := by
      rw [zpow_add₀ (by norm_num), zpow_natCast, Nat.cast_one, one_mul]
    _ ≤ underflow := mul_ten_zpow_le (by decide) (by omega)

/-- With few digits, a literal whose exponent cannot be read is too large. -/
theorem size_of_large_up {x : Exponent} (hx : l.exponent = some x) (h : exponentBound ≤ x.value)
    (hup : x.isDown = false) (hv : valueOf (l.whole ++ l.fraction) ≠ 0)
    (hl : (l.whole ++ l.fraction).length ≤ 2 ^ 30) : 2 ^ 53 * 2 ^ (971 : ℤ) ≤ l.size := by
  have hplace : l.place = x.value - l.fraction.length := by rw [place, hx]; simp [hup]
  have hbound : exponentBound = 2 ^ 31 := by decide
  have hlen : l.fraction.length ≤ (l.whole ++ l.fraction).length := by simp
  exact le_mul_ten_zpow hv (by omega)

/-- A number that is near what is collected of a literal is near its value. -/
theorem near_of_near {x s c : ℚ} (hc : 0 ≤ c) (hx : |x - s| ≤ s * (15 / 2 * roundoff) + 2 * underflow)
    (hs : |s - c| ≤ c / 2 ^ 60) : |x - c| ≤ c / 2 ^ 50 + 2 ^ (-1074 : ℤ) := by
  have small : (1 : ℚ) / 2 ^ 60 = roundoff / 128 := by norm_num [roundoff]
  have large : (1 : ℚ) / 2 ^ 50 = 8 * roundoff := by norm_num [roundoff]
  have he := roundoff_pos
  have he' := roundoff_le
  rw [← mul_one_div, small] at hs
  rw [← mul_one_div c, large, ← two_underflow]
  have hce := mul_nonneg hc he.le
  have hsc : s ≤ c * (1 + roundoff / 128) := by linarith [(abs_le.mp hs).2]
  have scaled : s * (15 / 2 * roundoff) ≤ c * (63 / 8 * roundoff) := by
    have := mul_le_mul_of_nonneg_right hsc (show 0 ≤ 15 / 2 * roundoff by linarith)
    nlinarith [mul_nonneg hce (sub_nonneg.mpr he')]
  linarith [abs_sub_le x s c]

theorem withSign_spec {x : Binary64} (hfin : x.IsFinite) (hs : x.isNegative = false) :
    (l.withSign x).IsFinite ∧ (l.withSign x).isNegative = l.negative ∧ (l.withSign x).size = x.size := by
  rw [withSign]
  cases l.negative with
  | false => exact ⟨hfin, hs, rfl⟩
  | true => exact ⟨Binary64.isFinite_neg hfin, by rw [if_pos rfl, Binary64.isNegative_neg hfin, hs]; rfl,
      Binary64.size_neg hfin⟩

theorem withSign_ofRatio (l : Literal) (num den : ℕ) :
    l.withSign (.ofRatio false num den) = .ofRatio l.negative num den := by
  rw [withSign]
  cases l.negative with
  | false => rfl
  | true => exact Binary64.neg_ofRatio num den

/-- How the conversion of a literal is related to its value. Between the two bounds it may overflow or not; the largest
finite number and the least value that is nearest to none are both there. -/
structure Scales (l : Literal) : Prop where
  accepted : l.size < 2 ^ 1024 - 2 ^ 973 → ∃ x, l.scaled? = some x
  refused : 2 ^ 1024 + 2 ^ 972 ≤ l.size → l.scaled? = none
  near : ∀ x, l.scaled? = some x →
    x.IsFinite ∧ x.isNegative = l.negative ∧ |x.size - l.size| ≤ l.size / 2 ^ 50 + 2 ^ (-1074 : ℤ)
  /-- where it is the nearest number -/
  exact : l.isWhole ∧ valueOf l.whole < wordBound ∨ valueOf (l.whole ++ l.fraction) ≤ 2 ^ 53 ∧ |l.place| ≤ 22 →
    l.scaled? = l.nearest?

/-- An integer that fits is rounded as it is. -/
theorem scales_of_isWhole (hw : l.isWhole ∧ valueOf l.whole < wordBound) : l.Scales := by
  obtain ⟨hwhole, hv⟩ := hw
  have hscaled : l.scaled? = some (l.withSign (.ofNat (valueOf l.whole))) := if_pos ⟨hwhole, hv⟩
  simp only [isWhole, Bool.and_eq_true, List.isEmpty_iff, Option.isNone_iff_eq_none] at hwhole
  obtain ⟨hf, hx⟩ := hwhole
  have hplace : l.place = 0 := by rw [place, hf, hx]; rfl
  have hsize : l.size = valueOf l.whole := by rw [size, hplace, hf, List.append_nil, zpow_zero, mul_one]
  have hvb := lt_overflowBound_of_lt_wordBound hv
  have near := Binary64.isNearest_ofNat hvb
  obtain ⟨hfin, hsign, hsame⟩ := l.withSign_spec near.finite near.sign
  refine ⟨fun _ => ⟨_, hscaled⟩, fun hle => ?_, fun x h => ?_, fun _ => ?_⟩
  · have := hle.trans_lt (hsize ▸ hvb)
    rw [upper_eq, Binary64.overflowBound_eq] at this
    exact absurd (lt_of_mul_lt_mul_right this (two_zpow_pos _).le) (by norm_num)
  · rw [hscaled] at h
    cases h
    refine ⟨hfin, hsign, ?_⟩
    rw [hsame, hsize]
    refine near.error.trans (add_le_add ?_ (two_zpow_le (by norm_num)))
    exact div_le_div_of_nonneg_left (Nat.cast_nonneg _) (by norm_num) (by norm_num)
  · rw [hscaled, nearest?_eq_some (hsize ▸ hvb), hplace, hf, List.append_nil, Binary64.ofNat, withSign_ofRatio]
    simp

/-- A literal whose exponent can be read is scaled. -/
theorem scales_of_small (hw : ¬(l.isWhole ∧ valueOf l.whole < wordBound))
    (hx : ∀ x, l.exponent = some x → x.value < exponentBound) : l.Scales := by
  obtain ⟨w, e, hm, hwb, hnear, hall⟩ := exists_scale_of_small hx
  have hscaled : l.scaled? = (scale (.ofNat w) e).map l.withSign := by rw [← hm]; exact if_neg hw
  have hsize := l.size_nonneg
  obtain ⟨hlow, hhigh⟩ := abs_le.mp hnear
  refine ⟨fun hlt => ?_, fun hle => ?_, fun x h => ?_, fun hexact => ?_⟩
  · rw [lower_eq] at hlt
    obtain ⟨x, hscale⟩ := exists_scale (e := e) hwb (by
      have := two_zpow_pos 971
      generalize (2 : ℚ) ^ (971 : ℤ) = t at *
      norm_num at hlt hhigh ⊢
      linarith)
    exact ⟨_, by rw [hscaled, hscale]; rfl⟩
  · rw [upper_eq] at hle
    rw [hscaled, scale_eq_none (e := e) hwb (by
      have := two_zpow_pos 971
      generalize (2 : ℚ) ^ (971 : ℤ) = t at *
      norm_num at hle hlow ⊢
      linarith)]
    rfl
  · rw [hscaled] at h
    obtain ⟨y, hy, rfl⟩ := Option.map_eq_some_iff.mp h
    have near := isNear_of_scale hwb hy
    obtain ⟨hfin, hsign, hsame⟩ := l.withSign_spec near.finite near.sign
    refine ⟨hfin, hsign, ?_⟩
    rw [hsame]
    exact near_of_near hsize near.error hnear
  · obtain ⟨hv, hplace⟩ := hexact.resolve_left hw
    obtain ⟨rfl, rfl⟩ := hall (hv.trans_lt (by decide))
    have hlt : l.size < overflowBound := by
      rw [size_eq_div]
      refine (div_le_self (by positivity) ?_).trans_lt (mul_ten_pow_lt hv (abs_le.mp hplace).2)
      exact_mod_cast Nat.one_le_pow _ _ (by decide)
    rw [hscaled, scale_exact hv hplace, nearest?_eq_some hlt, Option.map_some, withSign_ofRatio]

/-- What is converted to zero has next to no value. -/
theorem scales_of_tiny (hscaled : l.scaled? = some (l.withSign (.ofMagnitude false 0))) (hsize : l.size ≤ underflow)
    (hw : ¬(l.isWhole ∧ valueOf l.whole < wordBound)) (hplace : ¬|l.place| ≤ 22) : l.Scales := by
  have hzero : (Binary64.ofMagnitude false 0).size = 0 ∧ (Binary64.ofMagnitude false 0).IsFinite ∧
      (Binary64.ofMagnitude false 0).isNegative = false := by
    refine ⟨Binary64.isZero_iff.mp ?_, ?_, ?_⟩ <;> decide
  obtain ⟨hfin, hsign, hsame⟩ := l.withSign_spec hzero.2.1 hzero.2.2
  refine ⟨fun _ => ⟨_, hscaled⟩, fun hle => ?_, fun y hy => ?_, fun h => absurd (h.resolve_left hw).2 hplace⟩
  · have hlow : underflow ≤ 2 ^ (971 : ℤ) := two_zpow_le (by norm_num)
    have hle := hle.trans (hsize.trans hlow)
    rw [upper_eq] at hle
    exact absurd hle (not_le.mpr (lt_mul_of_one_lt_left (two_zpow_pos _) (by norm_num)))
  · rw [hscaled] at hy
    cases hy
    refine ⟨hfin, hsign, ?_⟩
    rw [hsame, hzero.1, zero_sub, abs_neg, abs_of_nonneg l.size_nonneg, ← two_underflow]
    have : 0 ≤ l.size / 2 ^ 50 := div_nonneg l.size_nonneg (by norm_num)
    linarith [underflow_pos]

/-- What is refused is too large. -/
theorem scales_of_huge (hscaled : l.scaled? = none) (hsize : 2 ^ 53 * 2 ^ (971 : ℤ) ≤ l.size)
    (hw : ¬(l.isWhole ∧ valueOf l.whole < wordBound)) (hplace : ¬|l.place| ≤ 22) : l.Scales := by
  refine ⟨fun hlt => ?_, fun _ => hscaled, fun y hy => ?_, fun h => absurd (h.resolve_left hw).2 hplace⟩
  · rw [lower_eq] at hlt
    exact absurd (le_of_mul_le_mul_right (hsize.trans hlt.le) (two_zpow_pos _)) (by norm_num)
  · rw [hscaled] at hy
    cases hy

/-- A literal whose exponent cannot be read is nothing, or too large. -/
theorem scales_of_large (hw : ¬(l.isWhole ∧ valueOf l.whole < wordBound)) {x : Exponent}
    (hx : l.exponent = some x) (h : exponentBound ≤ x.value) (hl : (l.whole ++ l.fraction).length ≤ 2 ^ 30) :
    l.Scales := by
  have hscaled : l.scaled? = l.magnitude?.map l.withSign := if_neg hw
  rw [magnitude?_of_large hx h] at hscaled
  have hplace : ¬|l.place| ≤ 22 := by
    have hbound : exponentBound = 2 ^ 31 := by decide
    have hlen : l.fraction.length ≤ (l.whole ++ l.fraction).length := by simp
    rw [place, hx, abs_le]
    dsimp only
    split <;> omega
  by_cases hz : valueOf (l.whole ++ l.fraction) = 0 ∨ x.isDown = true
  · rw [if_pos hz] at hscaled
    refine scales_of_tiny hscaled ?_ hw hplace
    by_cases hdown : x.isDown = true
    · exact size_of_large_down hx h hdown hl
    · rw [size, hz.resolve_right hdown, Nat.cast_zero, zero_mul]
      exact underflow_pos.le
  · rw [if_neg hz] at hscaled
    rw [not_or, Bool.not_eq_true] at hz
    exact scales_of_huge hscaled (size_of_large_up hx h hz.2 hz.1 hl) hw hplace

/-- **The conversion of a literal.** -/
theorem scales (l : Literal) (hl : (l.whole ++ l.fraction).length ≤ 2 ^ 30) : l.Scales := by
  by_cases hw : l.isWhole ∧ valueOf l.whole < wordBound
  · exact scales_of_isWhole hw
  by_cases hx : ∀ x, l.exponent = some x → x.value < exponentBound
  · exact scales_of_small hw hx
  · push Not at hx
    obtain ⟨x, hx, h⟩ := hx
    exact scales_of_large hw hx h hl

end Literal

end LinkedSelect.Json
