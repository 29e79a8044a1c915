import LinkedSelect.Proofs.Binary64
import LinkedSelect.Json.Number

/-!
# Numbers times powers of ten

`scale` rounds three times or more: the number that is read, the power of ten, and what comes of a multiplication or of
each division. Its result is near the exact product all the same.

* Each operation adds as much as the power of ten and its own rounding do to the relative error (`product_error`,
  `IsNear.mul`, `IsNear.div`), and there are two divisions at most before nothing is left
  (`size_div_powerOfTen_eq_zero`), so the errors add up to a few units in the last place (`isNear_of_scale`).
* Whether the result overflows is as for the exact product, but for those within two units in the last place of the
  bound (`exists_scale`, `scale_eq_none`).
-/

namespace LinkedSelect.Json

open Binary64 (overflowBound two_zpow_add two_zpow_le two_zpow_pos)

/-! ## Errors that add up -/

/-- The error of rounding, relative to the value. -/
def roundoff : ℚ :=
  1 / 2 ^ 53

/-- The error of rounding next to zero. -/
def underflow : ℚ :=
  2 ^ (-1075 : ℤ)

theorem roundoff_pos : 0 < roundoff := by
  norm_num [roundoff]

theorem roundoff_le : roundoff ≤ 1 / 64 := by
  norm_num [roundoff]

theorem underflow_pos : 0 < underflow :=
  two_zpow_pos _

/-- The least number is twice as large. -/
theorem two_underflow : 2 * underflow = 2 ^ (-1074 : ℤ) :=
  Binary64.two_zpow_neg_1074.symm

theorem underflow_le : underflow ≤ roundoff / 8 := by
  have : roundoff / 8 = 2 ^ (-56 : ℤ) := by norm_num [roundoff]
  rw [this, underflow]
  exact two_zpow_le (by norm_num)

/-- A number that is not negative is near `s`, up to a part `r` of it and to `h`. -/
structure IsNear (x : Binary64) (s r h : ℚ) : Prop where
  finite : x.IsFinite
  sign : x.isNegative = false
  error : |x.size - s| ≤ s * r + h

theorem IsNear.mono {x : Binary64} {s r r' h h' : ℚ} (hx : IsNear x s r h) (hs : 0 ≤ s) (hr : r ≤ r') (hh : h ≤ h') :
    IsNear x s r' h' :=
  ⟨hx.finite, hx.sign, hx.error.trans (add_le_add (mul_le_mul_of_nonneg_left hr hs) hh)⟩

/-- A rounded product of two values that are near others is near their product. -/
theorem product_error {f s t m x r h : ℚ} (hf : 0 ≤ f) (hs : 0 ≤ s) (hm : 0 ≤ m) (hr : 0 ≤ r ∧ r ≤ 1 / 8) (hh : 0 ≤ h)
    (hfs : |f - s| ≤ s * r + h) (ht : |t - m| ≤ m * (5 / 4 * roundoff))
    (hx : |x - f * t| ≤ f * t * roundoff + underflow) :
    |x - s * m| ≤ s * m * (r + 3 * roundoff) + (2 * h * m + underflow) := by
  have he := roundoff_pos
  have he' := roundoff_le
  generalize roundoff = e at *
  have hfm : f * m ≤ s * m * (1 + r) + h * m := by
    have := mul_le_mul_of_nonneg_right (show f ≤ s * (1 + r) + h by linarith [(abs_le.mp hfs).2]) hm
    linarith
  have hft : f * t ≤ f * m * (1 + 5 / 4 * e) := by
    have := mul_le_mul_of_nonneg_left (show t ≤ m * (1 + 5 / 4 * e) by linarith [(abs_le.mp ht).2]) hf
    linarith
  have hfm0 : 0 ≤ f * m := mul_nonneg hf hm
  have hsm0 : 0 ≤ s * m := mul_nonneg hs hm
  have hhm0 : 0 ≤ h * m := mul_nonneg hh hm
  have part : f * t * e + f * (m * (5 / 4 * e)) ≤ f * m * (19 / 8 * e) := by
    have := mul_le_mul_of_nonneg_right hft he.le
    nlinarith [mul_nonneg hfm0 he.le, mul_nonneg (mul_nonneg hfm0 he.le) (sub_nonneg.mpr he')]
  have whole : f * m * (19 / 8 * e) ≤ s * m * (3 * e) + h * m := by
    have := mul_le_mul_of_nonneg_right hfm (show 0 ≤ 19 / 8 * e by linarith)
    nlinarith [mul_nonneg hsm0 he.le, mul_nonneg (mul_nonneg hsm0 he.le) (sub_nonneg.mpr hr.2),
      mul_nonneg hhm0 (sub_nonneg.mpr he')]
  have split : x - s * m = (x - f * t) + f * (t - m) + (f - s) * m := by ring
  calc |x - s * m| ≤ |x - f * t| + |f * (t - m)| + |(f - s) * m| := by
        rw [split]
        exact abs_add_three _ _ _
    _ = |x - f * t| + f * |t - m| + |f - s| * m := by rw [abs_mul, abs_mul, abs_of_nonneg hf, abs_of_nonneg hm]
    _ ≤ (f * t * e + underflow) + f * (m * (5 / 4 * e)) + (s * r + h) * m := by gcongr
    _ ≤ s * m * (r + 3 * e) + (2 * h * m + underflow) := by linarith

/-- Dividing by what is near `m` is like multiplying by what is near its inverse. -/
theorem inverse_error {t m : ℚ} (hm : 0 < m) (ht : |t - m| ≤ m * (9 / 8 * roundoff)) :
    |t⁻¹ - m⁻¹| ≤ m⁻¹ * (5 / 4 * roundoff) := by
  have he := roundoff_pos
  have he' := roundoff_le
  have htm : 9 / 10 * m ≤ t := by
    have := (abs_le.mp ht).1
    nlinarith
  have htpos : 0 < t := by linarith
  rw [inv_sub_inv htpos.ne' hm.ne', abs_div, abs_of_pos (mul_pos htpos hm), abs_sub_comm,
    div_le_iff₀ (mul_pos htpos hm)]
  calc |t - m| ≤ m * (9 / 8 * roundoff) := ht
    _ = 5 / 4 * roundoff * (9 / 10 * m) := by ring
    _ ≤ 5 / 4 * roundoff * t := by gcongr
    _ = m⁻¹ * (5 / 4 * roundoff) * (t * m) := by field_simp

/-! ## Powers of ten -/

/-- A natural is rounded with a small error. -/
theorem ofNat_error {n : ℕ} (h : (n : ℚ) < overflowBound) :
    |(Binary64.ofNat n).size - n| ≤ n * (9 / 8 * roundoff) := by
  rcases Nat.eq_zero_or_pos n with rfl | hn
  · rw [Binary64.size_ofNat_of_grid (k := 0) (v := 0) h (Nat.zero_le _) rfl]
    simp
  · have hn : (1 : ℚ) ≤ n := by exact_mod_cast hn
    have he := roundoff_pos
    have := (Binary64.isNearest_ofNat h).error
    have hsmall : underflow ≤ n * (1 / 8 * roundoff) := by
      refine underflow_le.trans ?_
      nlinarith
    calc |(Binary64.ofNat n).size - n| ≤ n / 2 ^ 53 + 2 ^ (-1075 : ℤ) := this
      _ = n * roundoff + underflow := by rw [roundoff, underflow, mul_one_div]
      _ ≤ n * (9 / 8 * roundoff) := by linarith

theorem ten_pow_lt_overflowBound {k : ℕ} (hk : k ≤ 308) : (10 : ℚ) ^ k < overflowBound := by
  have top : (10 : ℕ) ^ 308 + 2 ^ 970 < 2 ^ 1024 := by decide +kernel
  have top : (10 : ℚ) ^ 308 + 2 ^ 970 < 2 ^ 1024 := by exact_mod_cast top
  exact (pow_le_pow_right₀ (by norm_num) hk).trans_lt (lt_sub_iff_add_lt.mpr top)

section

variable {k : ℕ} {f : Binary64} {s r h : ℚ}

theorem isNegative_powerOfTen (k : ℕ) : (powerOfTen k).isNegative = false :=
  Binary64.isNegative_ofMagnitude false (Binary64.roundRatio_le _ _)

theorem powerOfTen_error (hk : k ≤ 308) : |(powerOfTen k).size - 10 ^ k| ≤ 10 ^ k * (9 / 8 * roundoff) := by
  have := ofNat_error (n := 10 ^ k)
  push_cast at this
  exact this (ten_pow_lt_overflowBound hk)

/-- A small power of ten is not rounded. -/
theorem size_powerOfTen (hk : k ≤ 22) : (powerOfTen k).size = 10 ^ k := by
  have hfive : 5 ^ k ≤ 2 ^ 53 := (Nat.pow_le_pow_right (by decide) hk).trans (by decide)
  have := Binary64.size_ofNat_of_grid (n := 10 ^ k) (k := 5 ^ k) (v := k)
  push_cast at this
  exact this (ten_pow_lt_overflowBound (by omega)) hfive (by rw [← Nat.mul_pow])

theorem le_size_powerOfTen (hk : k ≤ 308) : 9 / 10 * 10 ^ k ≤ (powerOfTen k).size := by
  have := (abs_le.mp (powerOfTen_error hk)).1
  have hpos : (0 : ℚ) < 10 ^ k := by positivity
  have he := roundoff_le
  nlinarith

theorem size_powerOfTen_pos (hk : k ≤ 308) : 0 < (powerOfTen k).size :=
  lt_of_lt_of_le (by positivity) (le_size_powerOfTen hk)

theorem IsNear.mul (hf : IsNear f s r h) (hs : 0 ≤ s) (hr : 0 ≤ r ∧ r ≤ 1 / 8) (hh : 0 ≤ h) (hk : k ≤ 308)
    (hfin : f.size * (powerOfTen k).size < overflowBound) :
    IsNear (f.mul (powerOfTen k)) (s * 10 ^ k) (r + 3 * roundoff) (2 * h * 10 ^ k + underflow) := by
  have hx := Binary64.isNearest_mul hfin
  refine ⟨hx.finite, ?_, ?_⟩
  · rw [hx.sign, hf.sign, isNegative_powerOfTen]
    rfl
  · have ht := powerOfTen_error hk
    have hpos : (0 : ℚ) < 10 ^ k := by positivity
    refine product_error f.size_nonneg hs hpos.le hr hh hf.error (ht.trans ?_) ?_
    · have := roundoff_pos
      exact mul_le_mul_of_nonneg_left (by linarith) hpos.le
    · have := hx.error
      rwa [← mul_one_div] at this

theorem IsNear.div (hf : IsNear f s r h) (hs : 0 ≤ s) (hr : 0 ≤ r ∧ r ≤ 1 / 8) (hh : 0 ≤ h) (hk : k ≤ 308)
    (hfin : f.size / (powerOfTen k).size < overflowBound) :
    IsNear (f.div (powerOfTen k)) (s / 10 ^ k) (r + 3 * roundoff) (2 * h / 10 ^ k + underflow) := by
  have hx := Binary64.isNearest_div (size_powerOfTen_pos hk) hfin
  refine ⟨hx.finite, ?_, ?_⟩
  · rw [hx.sign, hf.sign, isNegative_powerOfTen]
    rfl
  · have hpos : (0 : ℚ) < 10 ^ k := by positivity
    rw [div_eq_mul_inv s, div_eq_mul_inv (2 * h)]
    refine product_error f.size_nonneg hs (inv_nonneg.mpr hpos.le) hr hh hf.error
      (inverse_error hpos (powerOfTen_error hk)) ?_
    have := hx.error
    rwa [← mul_one_div _ ((2 : ℚ) ^ 53), div_eq_mul_inv f.size] at this

end

/-! ## The conversion -/

/-- What is read is rounded near itself. -/
theorem isNear_ofNat {v : ℕ} (h : (v : ℚ) < overflowBound) :
    IsNear (.ofNat v) v (9 / 8 * roundoff) 0 := by
  have := Binary64.isNearest_ofNat h
  exact ⟨this.finite, this.sign, by rw [add_zero]; exact ofNat_error h⟩

theorem lt_overflowBound_of_lt_wordBound {v : ℕ} (h : v < wordBound) : (v : ℚ) < overflowBound := by
  have hv : v ≤ 10 ^ 308 := by
    have : wordBound ≤ 10 ^ 308 := by decide +kernel
    omega
  have hv : (v : ℚ) ≤ 10 ^ 308 := by exact_mod_cast hv
  exact hv.trans_lt (ten_pow_lt_overflowBound le_rfl)

section

variable {f x : Binary64} {e : ℤ} {v : ℕ}

theorem scale_up (f : Binary64) (h : 0 ≤ e) (he : e ≤ 308) :
    scale f e =
      if (f.mul (powerOfTen e.toNat)).isInfinite then none else some (f.mul (powerOfTen e.toNat)) := by
  rw [scale, if_pos h, if_pos he]

theorem scale_beyond (f : Binary64) (h : 308 < e) : scale f e = if f.isZero then some f else none := by
  rw [scale, if_pos (by omega), if_neg (by omega)]

theorem scale_down (f : Binary64) (h : e < 0) (he : -308 ≤ e) :
    scale f e = some (f.div (powerOfTen (-e).toNat)) := by
  rw [scale, if_neg (by omega), if_pos he]

theorem scale_below (f : Binary64) (h : e < -308) :
    scale f e = if f.isZero then some f else scale (f.div (powerOfTen 308)) (e + 308) := by
  rw [scale, if_neg (by omega), if_neg (by omega)]

/-- A division does not overflow. -/
theorem exists_scale_of_neg (f : Binary64) (h : e < 0) : ∃ x, scale f e = some x := by
  fun_induction scale f e with
  | case1 => omega
  | case2 => omega
  | case3 => omega
  | case4 => omega
  | case5 => exact ⟨_, rfl⟩
  | case6 => exact ⟨_, rfl⟩
  | case7 f e _ _ _ ih => exact ih (by omega)

theorem ten_zpow_of_nonneg (h : 0 ≤ e) : (10 : ℚ) ^ e = 10 ^ e.toNat := by
  rw [← zpow_natCast, Int.toNat_of_nonneg h]

theorem mul_ten_zpow_of_neg (s : ℚ) (h : e ≤ 0) : s * 10 ^ e = s / 10 ^ (-e).toNat := by
  rw [div_eq_mul_inv, ← zpow_natCast, ← zpow_neg, Int.toNat_of_nonneg (by omega), neg_neg]

/-- What is read is zero just where it is rounded to zero. -/
theorem isZero_ofNat_iff (hv : (v : ℚ) < overflowBound) : (Binary64.ofNat v).isZero = true ↔ v = 0 := by
  rw [Binary64.isZero_iff]
  have near := ofNat_error hv
  have := roundoff_le
  constructor
  · intro h
    rw [h, zero_sub, abs_neg, abs_of_nonneg (Nat.cast_nonneg v)] at near
    by_contra hne
    have : (0 : ℚ) < v := by exact_mod_cast Nat.pos_of_ne_zero hne
    nlinarith
  · rintro rfl
    simpa using near

/-- A division by a power of ten does not overflow. -/
theorem div_powerOfTen_lt {k : ℕ} (hf : f.IsFinite) (h : 0 < k) (hk : k ≤ 308) :
    f.size / (powerOfTen k).size < overflowBound := by
  have hle := le_size_powerOfTen hk
  have : (10 : ℚ) ^ 1 ≤ 10 ^ k := pow_le_pow_right₀ (by norm_num) h
  exact (div_le_self f.size_nonneg (by linarith)).trans_lt (Binary64.size_lt_overflowBound hf)

/-- A zero stays one when it is divided. -/
theorem scale_of_size_eq_zero (hf : f.size = 0) (hfin : f.IsFinite) (hsign : f.isNegative = false) (he : e < 0)
    (h : scale f e = some x) : x.size = 0 ∧ x.IsFinite ∧ x.isNegative = false := by
  rcases lt_or_ge e (-308) with hlow | hhigh
  · rw [scale_below f hlow, if_pos (Binary64.isZero_iff.mpr hf)] at h
    cases h
    exact ⟨hf, hfin, hsign⟩
  · rw [scale_down f he hhigh] at h
    cases h
    have hk : (-e).toNat ≤ 308 := by omega
    have near := Binary64.isNearest_div (size_powerOfTen_pos hk) (div_powerOfTen_lt hfin (by omega) hk)
    refine ⟨Binary64.size_div_eq_zero (size_powerOfTen_pos hk) ?_, near.finite, ?_⟩
    · rw [hf, zero_div]
      exact two_zpow_pos _
    · rw [near.sign, hsign, isNegative_powerOfTen]
      rfl

/-- What is read, divided by the largest power of ten there is. -/
theorem isNear_div_powerOfTen (hv : v < wordBound) :
    IsNear ((Binary64.ofNat v).div (powerOfTen 308)) (v / 10 ^ 308) (33 / 8 * roundoff) underflow := by
  have he := roundoff_pos
  have he' := roundoff_le
  have hf := isNear_ofNat (lt_overflowBound_of_lt_wordBound hv)
  have := hf.div (Nat.cast_nonneg v) ⟨by positivity, by linarith⟩ le_rfl le_rfl
    (div_powerOfTen_lt hf.finite (by norm_num) le_rfl)
  refine this.mono (by positivity) (by linarith) ?_
  simp

theorem two_zpow_le_ten_pow : (2 : ℚ) ^ (1022 : ℤ) ≤ 9 / 10 * 10 ^ 308 := by
  have top : (2 : ℕ) ^ 1022 * 10 ≤ 9 * 10 ^ 308 := by decide +kernel
  have top : (2 : ℚ) ^ 1022 * 10 ≤ 9 * 10 ^ 308 := by exact_mod_cast top
  rw [show (1022 : ℤ) = (1022 : ℕ) from rfl, zpow_natCast]
  generalize (2 : ℚ) ^ 1022 = a, (10 : ℚ) ^ 308 = b at *
  linarith

theorem div_ten_pow_le (hv : v < wordBound) : (v : ℚ) / 10 ^ 308 ≤ roundoff / 4 := by
  have top : wordBound * 2 ^ 55 ≤ 10 ^ 308 := by decide +kernel
  have hv : (v : ℚ) * 2 ^ 55 ≤ 10 ^ 308 := by exact_mod_cast (Nat.mul_le_mul_right _ hv.le).trans top
  rw [show roundoff / 4 = 1 / 2 ^ 55 by norm_num [roundoff], div_le_div_iff₀ (by positivity) (by norm_num), one_mul]
  exact hv

/-- Two such divisions leave nothing of what is read. -/
theorem size_div_powerOfTen_eq_zero (hv : v < wordBound) :
    (((Binary64.ofNat v).div (powerOfTen 308)).div (powerOfTen 308)).size = 0 := by
  have he := roundoff_pos
  have he' := roundoff_le
  have small := div_ten_pow_le hv
  have hv0 : (0 : ℚ) ≤ v / 10 ^ 308 := by positivity
  refine Binary64.size_div_eq_zero (size_powerOfTen_pos le_rfl) ?_
  have quotient : ((Binary64.ofNat v).div (powerOfTen 308)).size < roundoff := by
    have near := (abs_le.mp (isNear_div_powerOfTen hv).error).2
    have := underflow_le
    generalize (v : ℚ) / 10 ^ 308 = q at *
    nlinarith
  have large := two_zpow_le_ten_pow.trans (le_size_powerOfTen (le_refl 308))
  rw [div_lt_iff₀ (size_powerOfTen_pos le_rfl)]
  calc ((Binary64.ofNat v).div (powerOfTen 308)).size < roundoff := quotient
    _ = 2 ^ (-1075 : ℤ) * 2 ^ (1022 : ℤ) := by
      rw [← zpow_add₀ (by norm_num)]
      norm_num [roundoff]
    _ ≤ 2 ^ (-1075 : ℤ) * (powerOfTen 308).size := mul_le_mul_of_nonneg_left large (two_zpow_pos _).le

/-- Neither does the number that is written amount to more. -/
theorem mul_ten_zpow_le (hv : v < wordBound) (he : e < -616) : (v : ℚ) * 10 ^ e ≤ underflow := by
  have power : (10 : ℚ) ^ (e + 308) ≤ 2 ^ (-1020 : ℤ) := by
    calc (10 : ℚ) ^ (e + 308) ≤ 10 ^ (-(308 : ℕ) : ℤ) := zpow_le_zpow_right₀ (by norm_num) (by omega)
      _ = (10 ^ 308)⁻¹ := by rw [zpow_neg, zpow_natCast]
      _ ≤ (2 ^ (1020 : ℤ))⁻¹ := by
        refine inv_anti₀ (two_zpow_pos _) ?_
        calc (2 : ℚ) ^ (1020 : ℤ) ≤ 2 ^ (1022 : ℤ) := two_zpow_le (by norm_num)
          _ ≤ 9 / 10 * 10 ^ 308 := two_zpow_le_ten_pow
          _ ≤ 10 ^ 308 := mul_le_of_le_one_left (by positivity) (by norm_num)
      _ = 2 ^ (-1020 : ℤ) := (zpow_neg _ _).symm
  calc (v : ℚ) * 10 ^ e = v / 10 ^ 308 * 10 ^ (e + 308) := by
        rw [zpow_add₀ (by norm_num), show (308 : ℤ) = (308 : ℕ) from rfl, zpow_natCast]
        field_simp
    _ ≤ roundoff / 4 * 2 ^ (-1020 : ℤ) :=
      mul_le_mul (div_ten_pow_le hv) power (by positivity) (by have := roundoff_pos; positivity)
    _ = underflow := by
      rw [show roundoff / 4 = 2 ^ (-55 : ℤ) by norm_num [roundoff], ← zpow_add₀ (by norm_num)]
      rfl

/-- A zero is converted to itself. -/
theorem isNear_of_isZero (hv : v < wordBound) (hz : (Binary64.ofNat v).isZero = true) (e : ℤ) :
    IsNear (.ofNat v) (v * 10 ^ e) (15 / 2 * roundoff) (2 * underflow) := by
  have hvb := lt_overflowBound_of_lt_wordBound hv
  have hf := isNear_ofNat hvb
  refine ⟨hf.finite, hf.sign, ?_⟩
  rw [Binary64.isZero_iff.mp hz, (isZero_ofNat_iff hvb).mp hz]
  simpa using underflow_pos.le

/-- A multiplication, unless it overflows. -/
theorem isNear_of_scale_up (hv : v < wordBound) (hpos : 0 ≤ e) (h : scale (.ofNat v) e = some x) :
    IsNear x (v * 10 ^ e) (15 / 2 * roundoff) (2 * underflow) := by
  have he := roundoff_pos
  have he' := roundoff_le
  have hu := underflow_pos
  rcases lt_or_ge 308 e with hbeyond | hle
  · rw [scale_beyond _ hbeyond] at h
    split at h
    · next hz =>
      cases h
      exact isNear_of_isZero hv hz e
    · cases h
  · rw [scale_up _ hpos hle] at h
    split at h
    · cases h
    · next hi =>
      cases h
      have hf := isNear_ofNat (lt_overflowBound_of_lt_wordBound hv)
      have := hf.mul (Nat.cast_nonneg v) ⟨by positivity, by linarith⟩ le_rfl (by omega : e.toNat ≤ 308)
        (not_le.mp (mt Binary64.isInfinite_mul_iff.mpr hi))
      rw [← ten_zpow_of_nonneg hpos] at this
      refine this.mono (by positivity) (by linarith) ?_
      rw [mul_zero, zero_mul, zero_add]
      linarith

/-- One division. -/
theorem isNear_of_scale_down (hv : v < wordBound) (hneg : e < 0) (hhigh : -308 ≤ e)
    (h : scale (.ofNat v) e = some x) : IsNear x (v * 10 ^ e) (15 / 2 * roundoff) (2 * underflow) := by
  have he := roundoff_pos
  have he' := roundoff_le
  have hu := underflow_pos
  have hf := isNear_ofNat (lt_overflowBound_of_lt_wordBound hv)
  have hk : (-e).toNat ≤ 308 := by omega
  rw [scale_down _ hneg hhigh] at h
  cases h
  have := hf.div (Nat.cast_nonneg v) ⟨by positivity, by linarith⟩ le_rfl hk
    (div_powerOfTen_lt hf.finite (by omega) hk)
  rw [← mul_ten_zpow_of_neg _ hneg.le] at this
  refine this.mono (by positivity) (by linarith) ?_
  rw [mul_zero, zero_div, zero_add]
  linarith

/-- Two divisions, the first by the largest power of ten. -/
theorem isNear_of_scale_twice (hv : v < wordBound) (hlow : e < -308) (hhigh : -616 ≤ e)
    (h : scale ((Binary64.ofNat v).div (powerOfTen 308)) (e + 308) = some x) :
    IsNear x (v * 10 ^ e) (15 / 2 * roundoff) (2 * underflow) := by
  have he := roundoff_pos
  have he' := roundoff_le
  have hu := underflow_pos
  have hf := isNear_div_powerOfTen hv
  have hk : (-(e + 308)).toNat ≤ 308 := by omega
  have exact : (v : ℚ) / 10 ^ 308 / 10 ^ (-(e + 308)).toNat = v * 10 ^ e := by
    rw [mul_ten_zpow_of_neg _ (by omega : e ≤ 0), div_div, ← pow_add]
    congr 2
    omega
  rw [scale_down _ (by omega) (by omega)] at h
  cases h
  have := hf.div (by positivity) ⟨by positivity, by linarith⟩ hu.le hk
    (div_powerOfTen_lt hf.finite (by omega) hk)
  rw [exact] at this
  refine this.mono (by positivity) (by linarith) ?_
  have : (10 : ℚ) ^ 1 ≤ 10 ^ (-(e + 308)).toNat := pow_le_pow_right₀ (by norm_num) (by omega)
  have : 2 * underflow / 10 ^ (-(e + 308)).toNat ≤ underflow := by
    rw [div_le_iff₀ (by positivity)]
    nlinarith
  linarith

/-- Two divisions by the largest power of ten, or more: nothing is left of the number, and it is as small. -/
theorem isNear_of_scale_thrice (hv : v < wordBound) (hlow : e < -616)
    (h : scale ((Binary64.ofNat v).div (powerOfTen 308)) (e + 308) = some x) :
    IsNear x (v * 10 ^ e) (15 / 2 * roundoff) (2 * underflow) := by
  have hf := isNear_div_powerOfTen hv
  have nothing : x.size = 0 ∧ x.IsFinite ∧ x.isNegative = false := by
    rw [scale_below _ (by omega)] at h
    split at h
    · next hz =>
      cases h
      exact ⟨Binary64.isZero_iff.mp hz, hf.finite, hf.sign⟩
    · have near := Binary64.isNearest_div (size_powerOfTen_pos le_rfl)
        (div_powerOfTen_lt hf.finite (by norm_num) le_rfl)
      refine scale_of_size_eq_zero (size_div_powerOfTen_eq_zero hv) near.finite ?_ (by omega) h
      rw [near.sign, hf.sign, isNegative_powerOfTen]
      rfl
  obtain ⟨hzero, hfin, hsign⟩ := nothing
  have hs : (0 : ℚ) ≤ v * 10 ^ e := by positivity
  have hr : 0 ≤ (v : ℚ) * 10 ^ e * (15 / 2 * roundoff) := mul_nonneg hs (by linarith [roundoff_pos])
  refine ⟨hfin, hsign, ?_⟩
  rw [hzero, zero_sub, abs_neg, abs_of_nonneg hs]
  linarith [mul_ten_zpow_le hv hlow, underflow_pos]

/-- **The conversion comes near the number that is written.** -/
theorem isNear_of_scale (hv : v < wordBound) (h : scale (.ofNat v) e = some x) :
    IsNear x (v * 10 ^ e) (15 / 2 * roundoff) (2 * underflow) := by
  rcases lt_or_ge e 0 with hneg | hpos
  · rcases lt_or_ge e (-308) with hlow | hhigh
    · rw [scale_below _ hlow] at h
      split at h
      · next hz =>
        cases h
        exact isNear_of_isZero hv hz e
      · rcases lt_or_ge e (-616) with hlower | hhigher
        · exact isNear_of_scale_thrice hv hlower h
        · exact isNear_of_scale_twice hv hlow hhigher h
    · exact isNear_of_scale_down hv hneg hhigh h
  · exact isNear_of_scale_up hv hpos h

/-! ## What overflows -/

theorem two_pow_1024 : (2 : ℚ) ^ 1024 = 2 ^ 53 * 2 ^ (971 : ℤ) :=
  (zpow_natCast 2 1024).symm.trans (two_zpow_add 971 53)

theorem two_pow_1024_le : 2 ^ 53 * (2 : ℚ) ^ (971 : ℤ) ≤ 10 ^ 309 := by
  have top : (2 : ℕ) ^ 1024 ≤ 10 ^ 309 := by decide +kernel
  rw [← two_pow_1024]
  exact_mod_cast top

theorem lower_eq : (2 : ℚ) ^ 1024 - 2 ^ 973 = (2 ^ 53 - 2 ^ 2) * 2 ^ (971 : ℤ) := by
  have h : (2 : ℚ) ^ 973 = 2 ^ 2 * 2 ^ (971 : ℤ) := (zpow_natCast 2 973).symm.trans (two_zpow_add 971 2)
  rw [two_pow_1024, h, sub_mul]

theorem upper_eq : (2 : ℚ) ^ 1024 + 2 ^ 972 = (2 ^ 53 + 2 ^ 1) * 2 ^ (971 : ℤ) := by
  have h : (2 : ℚ) ^ 972 = 2 ^ 1 * 2 ^ (971 : ℤ) := (zpow_natCast 2 972).symm.trans (two_zpow_add 971 1)
  rw [two_pow_1024, h, add_mul]

/-- A power of ten beyond the largest that is a number is too large. -/
theorem le_mul_ten_zpow (hv : v ≠ 0) (he : 308 < e) : 2 ^ 53 * (2 : ℚ) ^ (971 : ℤ) ≤ v * 10 ^ e := by
  have hv1 : (1 : ℚ) ≤ v := by exact_mod_cast Nat.pos_of_ne_zero hv
  calc 2 ^ 53 * (2 : ℚ) ^ (971 : ℤ) ≤ 10 ^ 309 := two_pow_1024_le
    _ = 1 * 10 ^ ((309 : ℕ) : ℤ) := by rw [zpow_natCast, one_mul]
    _ ≤ v * 10 ^ e :=
      mul_le_mul hv1 (zpow_le_zpow_right₀ (by norm_num) (by omega)) (by positivity) (by positivity)

/-- A number is converted if it is not too near to what would overflow. -/
theorem exists_scale (hv : v < wordBound) (h : (v : ℚ) * 10 ^ e ≤ (2 ^ 53 - 3) * 2 ^ (971 : ℤ)) :
    ∃ x, scale (.ofNat v) e = some x := by
  have hvb := lt_overflowBound_of_lt_wordBound hv
  rcases lt_or_ge e 0 with hneg | hpos
  · exact exists_scale_of_neg _ hneg
  rcases lt_or_ge 308 e with hbeyond | hle
  · rw [scale_beyond _ hbeyond]
    by_cases hz : v = 0
    · exact ⟨_, if_pos ((isZero_ofNat_iff hvb).mpr hz)⟩
    · have hle := (le_mul_ten_zpow hz hbeyond).trans h
      exact absurd (le_of_mul_le_mul_right hle (two_zpow_pos _)) (by norm_num)
  · rw [scale_up _ hpos hle, if_neg]
    · exact ⟨_, rfl⟩
    · have hf := (abs_le.mp (ofNat_error hvb)).2
      have ht := (abs_le.mp (powerOfTen_error (k := e.toNat) (by omega))).2
      rw [ten_zpow_of_nonneg hpos] at h
      rw [Binary64.isInfinite_mul_iff, not_le, Binary64.overflowBound_eq]
      calc (Binary64.ofNat v).size * (powerOfTen e.toNat).size
          ≤ (v * (1 + 9 / 8 * roundoff)) * (10 ^ e.toNat * (1 + 9 / 8 * roundoff)) :=
            mul_le_mul (by linarith) (by linarith) (Binary64.size_nonneg _) (by have := roundoff_pos; positivity)
        _ = v * 10 ^ e.toNat * (1 + 9 / 8 * roundoff) ^ 2 := by ring
        _ ≤ (2 ^ 53 - 3) * 2 ^ (971 : ℤ) * (1 + 9 / 8 * roundoff) ^ 2 :=
          mul_le_mul_of_nonneg_right h (sq_nonneg _)
        _ = ((2 ^ 53 - 3) * (1 + 9 / 8 * roundoff) ^ 2) * 2 ^ (971 : ℤ) := by ring
        _ < (2 ^ 53 - 1 / 2) * 2 ^ (971 : ℤ) :=
          mul_lt_mul_of_pos_right (by norm_num [roundoff]) (two_zpow_pos _)

/-- A number overflows if it is not too near to what would not. -/
theorem scale_eq_none (hv : v < wordBound) (h : (2 ^ 53 + 63 / 32) * 2 ^ (971 : ℤ) ≤ (v : ℚ) * 10 ^ e) :
    scale (.ofNat v) e = none := by
  have hvb := lt_overflowBound_of_lt_wordBound hv
  have large : overflowBound < v * 10 ^ e := by
    refine lt_of_lt_of_le ?_ h
    rw [Binary64.overflowBound_eq]
    exact mul_lt_mul_of_pos_right (by norm_num) (two_zpow_pos _)
  have hne : v ≠ 0 := by
    rintro rfl
    rw [Nat.cast_zero, zero_mul] at large
    exact absurd (hvb.trans large) (by simp)
  rcases lt_or_ge e 0 with hneg | hpos
  · have hle : (v : ℚ) * 10 ^ e ≤ v :=
      mul_le_of_le_one_right (Nat.cast_nonneg v) (zpow_le_one_of_nonpos₀ (by norm_num) hneg.le)
    exact absurd (large.trans_le hle) (not_lt.mpr hvb.le)
  rcases lt_or_ge 308 e with hbeyond | hle
  · rw [scale_beyond _ hbeyond, if_neg (mt (isZero_ofNat_iff hvb).mp hne)]
  · rw [scale_up _ hpos hle, if_pos]
    have hf := (abs_le.mp (ofNat_error hvb)).1
    have ht := (abs_le.mp (powerOfTen_error (k := e.toNat) (by omega))).1
    have he := roundoff_pos
    have he' := roundoff_le
    rw [ten_zpow_of_nonneg hpos] at h
    rw [Binary64.isInfinite_mul_iff, Binary64.overflowBound_eq]
    calc (2 ^ 53 - 1 / 2) * 2 ^ (971 : ℤ)
        ≤ ((2 ^ 53 + 63 / 32) * (1 - 9 / 8 * roundoff) ^ 2) * 2 ^ (971 : ℤ) :=
          mul_le_mul_of_nonneg_right (by norm_num [roundoff]) (two_zpow_pos _).le
      _ = (2 ^ 53 + 63 / 32) * 2 ^ (971 : ℤ) * (1 - 9 / 8 * roundoff) ^ 2 := by ring
      _ ≤ v * 10 ^ e.toNat * (1 - 9 / 8 * roundoff) ^ 2 := mul_le_mul_of_nonneg_right h (sq_nonneg _)
      _ = (v * (1 - 9 / 8 * roundoff)) * (10 ^ e.toNat * (1 - 9 / 8 * roundoff)) := by ring
      _ ≤ (Binary64.ofNat v).size * (powerOfTen e.toNat).size :=
        mul_le_mul (by linarith) (by linarith) (mul_nonneg (by positivity) (by linarith)) (Binary64.size_nonneg _)

theorem mul_ten_pow_lt (hv : v ≤ 2 ^ 53) (he : e ≤ 22) : ((v * 10 ^ e.toNat : ℕ) : ℚ) < overflowBound := by
  have top : 2 ^ 53 * 10 ^ 22 ≤ 10 ^ 308 := by decide +kernel
  have := Nat.mul_le_mul hv (Nat.pow_le_pow_right (by decide : 0 < 10) (by omega : e.toNat ≤ 22))
  have : ((v * 10 ^ e.toNat : ℕ) : ℚ) ≤ 10 ^ 308 := by exact_mod_cast this.trans top
  exact this.trans_lt (ten_pow_lt_overflowBound le_rfl)

/-- A number of few digits and a small power of ten are not rounded, so their product is rounded once. -/
theorem scale_exact (hv : v ≤ 2 ^ 53) (he : |e| ≤ 22) :
    scale (.ofNat v) e = some (.ofRatio false (v * 10 ^ e.toNat) (10 ^ (-e).toNat)) := by
  obtain ⟨hlow, hhigh⟩ := abs_le.mp he
  have hvb : (v : ℚ) < overflowBound := lt_overflowBound_of_lt_wordBound (hv.trans_lt (by decide))
  have hf : (Binary64.ofNat v).size = v := Binary64.size_ofNat_of_grid (v := 0) hvb hv (by simp)
  have hsign := (Binary64.isNearest_ofNat hvb).sign
  rcases lt_or_ge e 0 with hneg | hpos
  · have hk : (-e).toNat ≤ 22 := by omega
    have exact : (Binary64.ofNat v).size / (powerOfTen (-e).toNat).size = v / (10 ^ (-e).toNat : ℕ) := by
      rw [hf, size_powerOfTen hk]
      push_cast
      rfl
    rw [scale_down _ hneg (by omega), Binary64.div_eq_ofRatio (size_powerOfTen_pos (by omega)) (by positivity) exact,
      hsign, isNegative_powerOfTen, Int.toNat_of_nonpos hneg.le, pow_zero, mul_one]
    rfl
  · have hk : e.toNat ≤ 22 := by omega
    have exact : (Binary64.ofNat v).size * (powerOfTen e.toNat).size = (v * 10 ^ e.toNat : ℕ) / (1 : ℕ) := by
      rw [hf, size_powerOfTen hk]
      push_cast
      rw [div_one]
    rw [scale_up _ hpos (by omega), if_neg, Binary64.mul_eq_ofRatio Nat.one_pos exact, hsign, isNegative_powerOfTen,
      Int.toNat_of_nonpos (by omega : -e ≤ 0), pow_zero]
    · rfl
    · rw [Binary64.isInfinite_mul_iff, exact, Nat.cast_one, div_one, not_le]
      exact mul_ten_pow_lt hv hhigh

end

end LinkedSelect.Json
