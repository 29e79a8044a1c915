import Mathlib.Algebra.Order.Field.Power
import Mathlib.Data.Nat.Log
import Mathlib.Data.Rat.Floor
import Mathlib.Tactic.FieldSimp
import Mathlib.Tactic.Linarith
import Mathlib.Tactic.NormNum
import Mathlib.Tactic.Positivity
import Mathlib.Tactic.Ring
import LinkedSelect.Binary64.Basic

/-!
# What rounding to binary floating point gives

The finite numbers are multiples of powers of two (`Binary64.size`), and a rounded quotient is the nearest of them.

* `roundDiv` gives the natural nearest to a quotient (`rounds_roundDiv`), and `lastPlace` the power of two of which the
  numbers near a quotient are multiples (`lastPlace_spec`). A quotient `Fits` the multiple that both give, and no other
  number is as near, be it a multiple of that power (`Rounds.nearest`) or below all that are (`Fits.dist_lt_of_low`).
* So `ofRatio` gives the number nearest to a quotient, a half to the even one (`isNearest_ofRatio`), unless the quotient
  is too large (`isInfinite_ofRatio_iff`); products, quotients and naturals are rounded from their exact values.
-/

namespace LinkedSelect.Binary64

/-! ## Powers of two -/

theorem zpow_eq_div {b : ℚ} (hb : b ≠ 0) (e : ℤ) : b ^ e = b ^ e.toNat / b ^ (-e).toNat := by
  rw [← zpow_natCast, ← zpow_natCast, ← zpow_sub₀ hb]
  congr 1
  omega

theorem two_zpow_pos (u : ℤ) : (0 : ℚ) < 2 ^ u :=
  zpow_pos (by norm_num) u

theorem two_zpow_add (u : ℤ) (k : ℕ) : (2 : ℚ) ^ (u + k) = 2 ^ k * 2 ^ u := by
  rw [zpow_add₀ (by norm_num), zpow_natCast, mul_comm]

theorem two_zpow_lt_iff {u v : ℤ} : (2 : ℚ) ^ u < 2 ^ v ↔ u < v :=
  zpow_lt_zpow_iff_right₀ (by norm_num)

theorem two_zpow_le {u v : ℤ} (h : u ≤ v) : (2 : ℚ) ^ u ≤ 2 ^ v :=
  zpow_le_zpow_right₀ (by norm_num) h

theorem two_zpow_neg_1074 : (2 : ℚ) ^ (-1074 : ℤ) = 2 * 2 ^ (-1075 : ℤ) := by
  rw [← zpow_one_add₀ (by norm_num)]
  norm_num

/-- A power of two is a multiple of each lower one. -/
theorem exists_two_zpow_eq {u v : ℤ} (h : u ≤ v) : ∃ j : ℕ, (2 : ℚ) ^ v = (2 ^ j : ℕ) * 2 ^ u := by
  obtain ⟨j, hj⟩ := Int.eq_ofNat_of_zero_le (sub_nonneg.mpr h)
  refine ⟨j, ?_⟩
  rw [show v = u + j by omega, two_zpow_add]
  push_cast
  rfl

/-! ## Values -/

/-- The value of a finite number without its sign. -/
def size (x : Binary64) : ℚ :=
  x.significand * 2 ^ x.exponent

/-- Neither an infinity nor no number at all. -/
def IsFinite (x : Binary64) : Prop :=
  x.magnitude < infinity

instance (x : Binary64) : Decidable x.IsFinite :=
  inferInstanceAs (Decidable (_ < _))

theorem size_nonneg (x : Binary64) : 0 ≤ x.size :=
  mul_nonneg (Nat.cast_nonneg _) (two_zpow_pos _).le

/-- The bits of a magnitude that is infinite at most leave the sign alone. -/
theorem toNat_ofMagnitude (negative : Bool) {m : ℕ} (h : m ≤ infinity) :
    m < signPlace ∧ (ofMagnitude negative m).bits.toNat = if negative then signPlace + m else m := by
  have hm : m < signPlace := Nat.lt_of_le_of_lt h (by decide)
  have hs : signPlace + signPlace = UInt64.size := by decide
  refine ⟨hm, UInt64.toNat_ofNat_of_lt' ?_⟩
  split <;> omega

theorem magnitude_ofMagnitude (negative : Bool) {m : ℕ} (h : m ≤ infinity) :
    (ofMagnitude negative m).magnitude = m := by
  obtain ⟨hm, hbits⟩ := toNat_ofMagnitude negative h
  rw [magnitude, hbits]
  cases negative with
  | false => exact Nat.mod_eq_of_lt hm
  | true => exact (Nat.add_mod_left _ _).trans (Nat.mod_eq_of_lt hm)

theorem isNegative_ofMagnitude (negative : Bool) {m : ℕ} (h : m ≤ infinity) :
    (ofMagnitude negative m).isNegative = negative := by
  obtain ⟨hm, hbits⟩ := toNat_ofMagnitude negative h
  rw [isNegative, hbits]
  cases negative with
  | false => exact decide_eq_false (Nat.not_le.mpr hm)
  | true => exact decide_eq_true (Nat.le_add_right _ _)

theorem significand_lt (x : Binary64) : x.significand < 2 ^ 53 := by
  have hplace : exponentPlace + exponentPlace = 2 ^ 53 := by decide
  have := Nat.mod_lt x.magnitude (show 0 < exponentPlace by decide)
  unfold significand
  split <;> omega

theorem exponent_ge (x : Binary64) : -1074 ≤ x.exponent := by
  unfold exponent
  omega

/-- A magnitude below the least leading bit counts units of the last place. -/
theorem size_of_low {x : Binary64} (h : x.magnitude < exponentPlace) : x.size = x.magnitude * 2 ^ (-1074 : ℤ) := by
  rw [size, significand, if_pos h, exponent, Nat.div_eq_of_lt h]
  rfl

/-- Above it the leading bit is left out of the magnitude. -/
theorem size_of_high {x : Binary64} {r i : ℕ} (hr : r < exponentPlace) (h : x.magnitude = r + (i + 1) * exponentPlace) :
    x.size = (2 ^ 52 + r : ℕ) * 2 ^ ((i : ℤ) - 1074) := by
  have hpos : 0 < exponentPlace := by decide
  have hplace : exponentPlace = 2 ^ 52 := by decide
  have hlow : ¬x.magnitude < exponentPlace := by
    rw [h, Nat.add_mul]
    omega
  have hdiv : x.magnitude / exponentPlace = i + 1 := by
    rw [h, Nat.add_mul_div_right _ _ hpos, Nat.div_eq_of_lt hr, Nat.zero_add]
  have hmod : x.magnitude % exponentPlace = r := by rw [h, Nat.add_mul_mod_self_right, Nat.mod_eq_of_lt hr]
  have hexp : x.exponent = i - 1074 := by
    rw [exponent, hdiv]
    omega
  rw [size, hexp, significand, if_neg hlow, hmod, hplace]

/-- A magnitude stands for a multiple of a power of two. -/
theorem size_ofMagnitude (negative : Bool) {k j : ℕ} (hk : k ≤ 2 ^ 53) (hj : j = 0 ∨ 2 ^ 52 ≤ k)
    (h : k + j * exponentPlace ≤ infinity) :
    (ofMagnitude negative (k + j * exponentPlace)).size = k * 2 ^ ((j : ℤ) - 1074) := by
  have hm := magnitude_ofMagnitude negative h
  have hplace : exponentPlace = 2 ^ 52 := by decide
  rcases Nat.lt_or_ge k (2 ^ 52) with hlow | hhigh
  · obtain rfl : j = 0 := hj.resolve_right (by omega)
    rw [Nat.zero_mul, Nat.add_zero] at hm ⊢
    rw [size_of_low (by rw [hm, hplace]; exact hlow), hm]
    rfl
  · obtain ⟨r, rfl⟩ := Nat.exists_eq_add_of_le hhigh
    rcases Nat.lt_or_ge r (2 ^ 52) with hr | hr
    · refine size_of_high (hplace ▸ hr) ?_
      rw [hm, hplace]
      ring
    · -- the carry moves on to the next place
      obtain rfl : r = 2 ^ 52 := by omega
      have next := size_of_high (x := ofMagnitude negative (2 ^ 52 + 2 ^ 52 + j * exponentPlace)) (r := 0) (i := j + 1)
        (by decide) (by rw [hm, hplace]; ring)
      rw [next, show ((j + 1 : ℕ) : ℤ) - 1074 = (j - 1074) + 1 by push_cast; ring, zpow_add_one₀ (by norm_num)]
      push_cast
      ring

/-! ## The nearest natural -/

/-- The natural `n` is nearest to `q`, and even if another one is as near. -/
structure Rounds (q : ℚ) (n : ℕ) : Prop where
  near : |n - q| ≤ 1 / 2
  even : |n - q| = 1 / 2 → n % 2 = 0

namespace Rounds

variable {q : ℚ} {m n : ℕ}

/-- A value is as far from two integers as they are from each other, or further. -/
theorem le_dist_add_dist (q : ℚ) {k : ℤ} {d : ℕ} (hd : d ≤ |k - n|) : (d : ℚ) ≤ |k - q| + |n - q| := by
  have apart : (d : ℚ) ≤ |(k : ℚ) - n| := by exact_mod_cast hd
  rw [abs_sub_comm (n : ℚ)]
  exact apart.trans (abs_sub_le _ _ _)

theorem one_le_dist_add_dist (q : ℚ) {k : ℤ} (hk : k ≠ n) : 1 ≤ |k - q| + |n - q| := by
  have := le_dist_add_dist q (d := 1) (Int.one_le_abs (sub_ne_zero.mpr hk))
  rwa [Nat.cast_one] at this

/-- No integer is nearer. -/
theorem nearest (h : Rounds q n) (k : ℤ) : |n - q| ≤ |k - q| := by
  rcases eq_or_ne k n with rfl | hne
  · exact le_refl _
  · linarith [one_le_dist_add_dist q hne, h.near]

/-- If another integer is as near, the natural is even. -/
theorem even_of_tie (h : Rounds q n) {k : ℤ} (hk : k ≠ n) (he : |k - q| = |n - q|) : n % 2 = 0 := by
  apply h.even
  linarith [one_le_dist_add_dist q hk, h.near]

theorem le (h : Rounds q n) {b : ℕ} (hq : q ≤ b) : n ≤ b := by
  have := (abs_le.mp h.near).2
  have hn : (n : ℚ) < b + 1 := by linarith
  exact Nat.lt_succ_iff.mp (by exact_mod_cast hn)

theorem ge (h : Rounds q n) {b : ℕ} (hq : b ≤ q) : b ≤ n := by
  have := (abs_le.mp h.near).1
  have hn : (b : ℚ) < n + 1 := by linarith
  exact Nat.lt_succ_iff.mp (by exact_mod_cast hn)

/-- An even bound is reached half of one in front of it. -/
theorem ge_iff (h : Rounds q n) {b : ℕ} (hb : b % 2 = 0) : b ≤ n ↔ (b : ℚ) - 1 / 2 ≤ q := by
  obtain ⟨hlow, hhigh⟩ := abs_le.mp h.near
  constructor
  · intro hle
    have hle : (b : ℚ) ≤ n := by exact_mod_cast hle
    linarith
  · intro hq
    by_contra hlt
    have hltq : (n : ℚ) + 1 ≤ b := by exact_mod_cast not_le.mp hlt
    -- what is just half of one away is odd
    have tie : (n : ℚ) - q = -(1 / 2) := by linarith
    have even := h.even (by rw [tie, abs_neg, abs_of_pos (by norm_num)])
    have : (n : ℚ) + 1 = b := by linarith
    have : n + 1 = b := by exact_mod_cast this
    omega

/-- A natural is nearest to itself. -/
theorem eq_of_natCast (h : Rounds m n) : n = m :=
  Nat.le_antisymm (h.le le_rfl) (h.ge le_rfl)

theorem unique (hm : Rounds q m) (hn : Rounds q n) : m = n := by
  have same : |(m : ℚ) - q| = |(n : ℚ) - q| := le_antisymm (hm.nearest n) (hn.nearest m)
  by_contra hne
  have evenm := hm.even_of_tie (k := n) (by omega) same.symm
  have evenn := hn.even_of_tie (k := m) (by omega) same
  -- two even naturals are further apart than two halves
  have apart : 2 ≤ |(m : ℤ) - n| := by
    rw [le_abs]
    omega
  have := le_dist_add_dist q (d := 2) apart
  push_cast at this
  linarith [hm.near, hn.near]

end Rounds

/-- The rounded quotient is the natural nearest to the quotient. -/
theorem rounds_roundDiv (num : ℕ) {den : ℕ} (hd : 0 < den) : Rounds (num / den) (roundDiv num den) := by
  have hdq : (0 : ℚ) < den := by exact_mod_cast hd
  have hr : num % den < den := Nat.mod_lt num hd
  have split : (num : ℚ) = den * (num / den : ℕ) + (num % den : ℕ) := by exact_mod_cast (Nat.div_add_mod num den).symm
  have hquot : (num : ℚ) / den = (num / den : ℕ) + (num % den : ℕ) / den := by
    rw [split]
    field_simp
  have hrq : (0 : ℚ) ≤ (num % den : ℕ) / den := by positivity
  rw [hquot]
  unfold roundDiv
  dsimp only
  split
  · next h =>
    have half : ((num % den : ℕ) : ℚ) / den ≤ 1 / 2 := by
      rw [div_le_div_iff₀ hdq (by norm_num)]
      have : num % den * 2 ≤ 1 * den := by omega
      exact_mod_cast this
    have dist : |((num / den : ℕ) : ℚ) - ((num / den : ℕ) + (num % den : ℕ) / den)| = (num % den : ℕ) / den := by
      rw [sub_add_cancel_left, abs_neg, abs_of_nonneg hrq]
    refine ⟨by rw [dist]; exact half, fun tie => ?_⟩
    rw [dist, div_eq_div_iff hdq.ne' (by norm_num)] at tie
    have : num % den * 2 = 1 * den := by exact_mod_cast tie
    exact (h.resolve_left (by omega)).2
  · next h =>
    have half : (1 : ℚ) / 2 ≤ (num % den : ℕ) / den := by
      rw [div_le_div_iff₀ (by norm_num) hdq]
      have : 1 * den ≤ num % den * 2 := by omega
      exact_mod_cast this
    have one : ((num % den : ℕ) : ℚ) / den < 1 := by
      rw [div_lt_one hdq]
      exact_mod_cast hr
    have dist : |((num / den + 1 : ℕ) : ℚ) - ((num / den : ℕ) + (num % den : ℕ) / den)| =
        1 - (num % den : ℕ) / den := by
      rw [Nat.cast_add, Nat.cast_one, add_sub_add_left_eq_sub, abs_of_pos (by linarith)]
    refine ⟨by rw [dist]; linarith, fun tie => ?_⟩
    rw [dist] at tie
    have : ((num % den : ℕ) : ℚ) / den = 1 / 2 := by linarith
    rw [div_eq_div_iff hdq.ne' (by norm_num)] at this
    have : num % den * 2 = 1 * den := by exact_mod_cast this
    omega

/-! ## The last place -/

/-- The last bit of the numbers near `q` has the place value `2 ^ u`. -/
structure LastPlace (q : ℚ) (u : ℤ) : Prop where
  low : -1074 ≤ u
  lt : q < 2 ^ (u + 53)
  le : u = -1074 ∨ 2 ^ (u + 52) ≤ q

/-- There is one last place. -/
theorem LastPlace.unique {q : ℚ} {u v : ℤ} (hu : LastPlace q u) (hv : LastPlace q v) : u = v := by
  have below {u v : ℤ} (hu : LastPlace q u) (hv : LastPlace q v) : u ≤ v := by
    rcases hu.le with h | h
    · rw [h]
      exact hv.low
    · have := two_zpow_lt_iff.mp (h.trans_lt hv.lt)
      omega
  exact le_antisymm (below hu hv) (below hv hu)

theorem lastPlace_spec {num den : ℕ} (hn : 0 < num) (hd : 0 < den) :
    LastPlace (num / den) (lastPlace num den) := by
  have hdq : (0 : ℚ) < den := by exact_mod_cast hd
  have hnlow : (2 : ℚ) ^ num.log2 ≤ num := by exact_mod_cast Nat.log2_self_le hn.ne'
  have hnhigh : (num : ℚ) < 2 ^ (num.log2 + 1) := by exact_mod_cast Nat.lt_log2_self
  have hdlow : (2 : ℚ) ^ den.log2 ≤ den := by exact_mod_cast Nat.log2_self_le hd.ne'
  have hdhigh : (den : ℚ) < 2 ^ (den.log2 + 1) := by exact_mod_cast Nat.lt_log2_self
  obtain ⟨e, he⟩ : ∃ e : ℤ, e = (num.log2 : ℤ) - den.log2 := ⟨_, rfl⟩
  have low : (2 : ℚ) ^ (e - 1) ≤ num / den := by
    rw [le_div_iff₀ hdq]
    calc (2 : ℚ) ^ (e - 1) * den ≤ 2 ^ (e - 1) * 2 ^ (den.log2 + 1) := by gcongr
      _ = 2 ^ num.log2 := by
        rw [mul_comm, ← two_zpow_add, ← zpow_natCast]
        congr 1
        omega
      _ ≤ num := hnlow
  have high : (num : ℚ) / den < 2 ^ (e + 1) := by
    rw [div_lt_iff₀ hdq]
    calc (num : ℚ) < 2 ^ (num.log2 + 1) := hnhigh
      _ = 2 ^ (e + 1) * 2 ^ den.log2 := by
        rw [mul_comm, ← two_zpow_add, ← zpow_natCast]
        congr 1
        omega
      _ ≤ 2 ^ (e + 1) * den := by gcongr
  have middle : den * Nat.pow 2 e.toNat ≤ num * Nat.pow 2 (-e).toNat ↔ (2 : ℚ) ^ e ≤ num / den := by
    rw [zpow_eq_div (by norm_num), div_le_div_iff₀ (by positivity) hdq, mul_comm den, ← Nat.cast_le (α := ℚ)]
    simp only [Nat.pow_eq, Nat.cast_mul, Nat.cast_pow, Nat.cast_ofNat]
  -- the leading bit
  obtain ⟨top, htop, hle, hlt⟩ : ∃ top : ℤ, lastPlace num den = max (top - 52) (-1074) ∧
      (2 : ℚ) ^ top ≤ num / den ∧ (num : ℚ) / den < 2 ^ (top + 1) := by
    rw [lastPlace, ← he]
    by_cases h : den * Nat.pow 2 e.toNat ≤ num * Nat.pow 2 (-e).toNat
    · rw [if_pos h]
      exact ⟨e, rfl, middle.mp h, high⟩
    · rw [if_neg h]
      exact ⟨e - 1, rfl, low, by rw [sub_add_cancel]; exact not_le.mp (mt middle.mpr h)⟩
  rw [htop]
  refine ⟨le_max_right _ _, hlt.trans_le (two_zpow_le (by omega)), ?_⟩
  rcases le_total (top - 52) (-1074) with h | h
  · exact .inl (max_eq_right h)
  · rw [max_eq_left h, sub_add_cancel]
    exact .inr hle

/-! ## The nearest number -/

/-- The number `n` of units in the last place is nearest to `q`. -/
structure Fits (q : ℚ) (u : ℤ) (n : ℕ) : Prop where
  place : LastPlace q u
  rounds : Rounds (q / 2 ^ u) n

/-- What is rounded to the nearest number is rounded to units in the last place. -/
theorem roundRatio_spec (num : ℕ) {den : ℕ} (hd : 0 < den) :
    ∃ u n, Fits (num / den) u n ∧ roundRatio num den = min infinity (n + (u + 1074).toNat * exponentPlace) := by
  rcases Nat.eq_zero_or_pos num with rfl | hn
  · rw [Nat.cast_zero, zero_div]
    refine ⟨-1074, 0, ⟨⟨le_rfl, two_zpow_pos _, .inl rfl⟩, ⟨?_, fun _ => rfl⟩⟩, ?_⟩
    · norm_num
    · rw [roundRatio, if_pos rfl, neg_add_cancel, Int.toNat_zero, Nat.zero_mul, Nat.zero_add, Nat.min_zero]
  · have hdq : (0 : ℚ) < den := by exact_mod_cast hd
    refine ⟨lastPlace num den, _, ⟨lastPlace_spec hn hd, ?_⟩, by rw [roundRatio, if_neg hn.ne']⟩
    have hpos : 0 < den * Nat.pow 2 (lastPlace num den).toNat := Nat.mul_pos hd (Nat.pow_pos (by decide))
    have scaled := rounds_roundDiv (num * Nat.pow 2 (-lastPlace num den).toNat) hpos
    rw [zpow_eq_div (by norm_num)]
    convert scaled using 1
    simp only [Nat.pow_eq]
    push_cast
    field_simp

/-- The least size that is rounded to infinity. -/
def overflowBound : ℚ :=
  2 ^ 1024 - 2 ^ 970

/-- It is half a unit in the last place behind the largest finite size. -/
theorem overflowBound_eq : overflowBound = (2 ^ 53 - 1 / 2) * 2 ^ (971 : ℤ) := by
  have high : (2 : ℚ) ^ 1024 = 2 ^ 53 * 2 ^ 971 := by rw [← pow_add]
  have low : (2 : ℚ) ^ 971 = 2 * 2 ^ 970 := pow_succ' 2 970
  rw [overflowBound, show (971 : ℤ) = (971 : ℕ) from rfl, zpow_natCast, high, low]
  generalize (2 : ℚ) ^ 970 = t
  ring

/-- All finite sizes are below it. -/
theorem size_lt_overflowBound {x : Binary64} (h : x.IsFinite) : x.size < overflowBound := by
  have hplace : 0 < exponentPlace := by decide
  have hexp : x.exponent ≤ 971 := by
    have : x.magnitude / exponentPlace < 2047 := (Nat.div_lt_iff_lt_mul hplace).mpr h
    unfold exponent
    omega
  have hsig : (x.significand : ℚ) ≤ 2 ^ 53 - 1 := by
    have : (x.significand : ℚ) + 1 ≤ 2 ^ 53 := by exact_mod_cast x.significand_lt
    linarith
  calc x.size ≤ (2 ^ 53 - 1) * 2 ^ (971 : ℤ) :=
        mul_le_mul hsig (two_zpow_le hexp) (two_zpow_pos _).le (by norm_num)
    _ < (2 ^ 53 - 1 / 2) * 2 ^ (971 : ℤ) := mul_lt_mul_of_pos_right (by norm_num) (two_zpow_pos _)
    _ = overflowBound := overflowBound_eq.symm

/-- A number is a multiple of the last place, or it is below all numbers with that last place. -/
theorem LastPlace.size_cases {q : ℚ} {u : ℤ} (h : LastPlace q u) (y : Binary64) :
    (∃ k : ℤ, y.size = k * 2 ^ u) ∨ y.size < 2 ^ (u + 52) ∧ 2 ^ (u + 52) ≤ q := by
  rcases le_or_gt u y.exponent with hle | hlt
  · obtain ⟨j, hj⟩ := exists_two_zpow_eq hle
    refine .inl ⟨(y.significand * 2 ^ j : ℕ), ?_⟩
    rw [size, hj, Int.cast_natCast, Nat.cast_mul, mul_assoc]
  · refine .inr ⟨?_, h.le.resolve_left (by have := y.exponent_ge; omega)⟩
    calc y.size < 2 ^ 53 * 2 ^ y.exponent := by
          have : (y.significand : ℚ) < 2 ^ 53 := by exact_mod_cast y.significand_lt
          exact mul_lt_mul_of_pos_right this (two_zpow_pos _)
      _ = 2 ^ (y.exponent + 53) := (two_zpow_add _ 53).symm
      _ ≤ 2 ^ (u + 52) := two_zpow_le (by omega)

namespace Fits

variable {q : ℚ} {u : ℤ} {n : ℕ}

/-- A distance in units of the last place. -/
theorem dist_scale (k q : ℚ) (u : ℤ) : |k * 2 ^ u - q| = |k - q / 2 ^ u| * 2 ^ u := by
  have hu := two_zpow_pos u
  rw [← abs_of_pos hu, ← abs_mul, abs_of_pos hu, sub_mul, div_mul_cancel₀ _ hu.ne']

theorem le (h : Fits q u n) : n ≤ 2 ^ 53 := by
  refine h.rounds.le ?_
  rw [div_le_iff₀ (two_zpow_pos u)]
  refine h.place.lt.le.trans_eq ((two_zpow_add u 53).trans ?_)
  norm_num

theorem ge (h : Fits q u n) : u = -1074 ∨ 2 ^ 52 ≤ n := by
  refine h.place.le.imp_right fun hle => h.rounds.ge ?_
  rw [le_div_iff₀ (two_zpow_pos u)]
  refine (Eq.trans ?_ (two_zpow_add u 52).symm).trans_le hle
  norm_num

theorem unique {v : ℤ} {m : ℕ} (h : Fits q u n) (h' : Fits q v m) : u = v ∧ n = m := by
  obtain rfl := h.place.unique h'.place
  exact ⟨rfl, h.rounds.unique h'.rounds⟩

/-- What fits is infinite just where `q` is too large. -/
theorem infinity_le_iff (h : Fits q u n) : infinity ≤ n + (u + 1074).toNat * exponentPlace ↔ overflowBound ≤ q := by
  have hplace : exponentPlace = 2 ^ 52 := by decide
  have hinf : infinity = 2047 * 2 ^ 52 := by decide
  have hlow := h.place.low
  have hn := h.le
  rw [hplace, hinf]
  rcases lt_trichotomy u 971 with hu | rfl | hu
  · refine iff_of_false ?_ ?_
    · have : (u + 1074).toNat ≤ 2044 := by omega
      have := Nat.mul_le_mul_right (2 ^ 52) this
      omega
    · refine not_le.mpr ?_
      calc q < 2 ^ (1023 : ℤ) := h.place.lt.trans_le (two_zpow_le (by omega))
        _ = 2 ^ 52 * 2 ^ (971 : ℤ) := two_zpow_add 971 52
        _ < (2 ^ 53 - 1 / 2) * 2 ^ (971 : ℤ) := mul_lt_mul_of_pos_right (by norm_num) (two_zpow_pos _)
        _ = overflowBound := overflowBound_eq.symm
  · -- the last numbers in front of infinity
    have hbound : overflowBound ≤ q ↔ ((2 ^ 53 : ℕ) : ℚ) - 1 / 2 ≤ q / 2 ^ (971 : ℤ) := by
      rw [overflowBound_eq, le_div_iff₀ (two_zpow_pos _), Nat.cast_pow, Nat.cast_ofNat]
    rw [hbound, ← h.rounds.ge_iff (by decide)]
    omega
  · refine iff_of_true ?_ ?_
    · have hn := h.ge.resolve_left (by omega)
      have : 2046 ≤ (u + 1074).toNat := by omega
      have := Nat.mul_le_mul_right (2 ^ 52) this
      omega
    · have hq := h.place.le.resolve_left (by omega)
      calc overflowBound = (2 ^ 53 - 1 / 2) * 2 ^ (971 : ℤ) := overflowBound_eq
        _ ≤ 2 ^ 53 * 2 ^ (971 : ℤ) := mul_le_mul_of_nonneg_right (by norm_num) (two_zpow_pos _).le
        _ = 2 ^ (1024 : ℤ) := (two_zpow_add 971 53).symm
        _ ≤ 2 ^ (u + 52) := two_zpow_le (by omega)
        _ ≤ q := hq

/-- What is below all numbers with the last place is further away. -/
theorem dist_lt_of_low (h : Fits q u n) {y : Binary64} (hy : y.size < 2 ^ (u + 52)) (hq : 2 ^ (u + 52) ≤ q) :
    |n * 2 ^ u - q| < |y.size - q| := by
  have least : ((2 ^ 52 : ℤ) : ℚ) * 2 ^ u = 2 ^ (u + 52) := by
    refine Eq.trans ?_ (two_zpow_add u 52).symm
    norm_num
  calc |n * 2 ^ u - q| ≤ |((2 ^ 52 : ℤ) : ℚ) * 2 ^ u - q| := by
        rw [dist_scale, dist_scale]
        exact mul_le_mul_of_nonneg_right (h.rounds.nearest (2 ^ 52)) (two_zpow_pos u).le
    _ = q - 2 ^ (u + 52) := by rw [least, abs_sub_comm, abs_of_nonneg (sub_nonneg.mpr hq)]
    _ < q - y.size := by linarith
    _ = |y.size - q| := by rw [abs_sub_comm, abs_of_pos (by linarith)]

/-- No number is nearer to `q` than the one that fits. -/
theorem nearest (h : Fits q u n) (y : Binary64) : |n * 2 ^ u - q| ≤ |y.size - q| := by
  rcases h.place.size_cases y with ⟨k, hk⟩ | ⟨hlow, hq⟩
  · rw [hk, dist_scale, dist_scale]
    exact mul_le_mul_of_nonneg_right (h.rounds.nearest k) (two_zpow_pos u).le
  · exact (h.dist_lt_of_low hlow hq).le

/-- If another number is as near, the units are even. -/
theorem even_of_tie (h : Fits q u n) {y : Binary64} (hne : y.size ≠ n * 2 ^ u)
    (he : |y.size - q| = |n * 2 ^ u - q|) : n % 2 = 0 := by
  rcases h.place.size_cases y with ⟨k, hk⟩ | ⟨hlow, hq⟩
  · rw [hk, dist_scale, dist_scale] at he
    refine h.rounds.even_of_tie (k := k) (fun hkn => hne ?_) (mul_right_cancel₀ (two_zpow_pos u).ne' he)
    rw [hk, hkn, Int.cast_natCast]
  · exact absurd he (h.dist_lt_of_low hlow hq).ne'

/-- The last place is at most as large as what has it, or the least one. -/
theorem place_le (h : Fits q u n) (hq : 0 ≤ q) : 2 ^ u ≤ q / 2 ^ 52 + 2 ^ (-1074 : ℤ) := by
  rcases h.place.le with rfl | hle
  · exact le_add_of_nonneg_left (by positivity)
  · refine le_add_of_le_of_nonneg ?_ (two_zpow_pos _).le
    rw [le_div_iff₀ (by norm_num)]
    rw [mul_comm]
    exact (two_zpow_add u 52).symm.trans_le hle

/-- The distance is half a unit in the last place at most. -/
theorem error (h : Fits q u n) (hq : 0 ≤ q) : |n * 2 ^ u - q| ≤ q / 2 ^ 53 + 2 ^ (-1075 : ℤ) := by
  have half : |n * 2 ^ u - q| ≤ 1 / 2 * 2 ^ u := by
    rw [dist_scale]
    exact mul_le_mul_of_nonneg_right h.rounds.near (two_zpow_pos u).le
  have place := h.place_le hq
  rw [two_zpow_neg_1074] at place
  linarith

/-- A multiple of a power of two with few bits fits as it is. -/
theorem eq_of_grid (h : Fits q u n) {k : ℕ} {v : ℤ} (hk : k ≤ 2 ^ 53) (hv : -1074 ≤ v) (hq : q = k * 2 ^ v) :
    n * 2 ^ u = q := by
  -- the quotient by the last place is a natural
  obtain ⟨m, hm⟩ : ∃ m : ℕ, q = m * 2 ^ u := by
    rcases le_or_gt u v with hle | hlt
    · obtain ⟨j, hj⟩ := exists_two_zpow_eq hle
      exact ⟨k * 2 ^ j, by rw [hq, hj, Nat.cast_mul, mul_assoc]⟩
    · -- only a power of two has a last place above that of its multiples
      have hlow := h.place.le.resolve_left (by omega)
      have hkq : (k : ℚ) ≤ 2 ^ 53 := by exact_mod_cast hk
      have hhigh : q ≤ 2 ^ (v + 53) := by
        rw [hq]
        exact (mul_le_mul_of_nonneg_right hkq (two_zpow_pos v).le).trans_eq (two_zpow_add v 53).symm
      have huv : ¬v + 53 < u + 52 := fun hlt => not_le.mpr (two_zpow_lt_iff.mpr hlt) (hlow.trans hhigh)
      obtain rfl : u = v + 1 := by omega
      rw [show v + 53 = v + 1 + 52 by ring] at hhigh
      refine ⟨2 ^ 52, (le_antisymm hhigh hlow).trans ((two_zpow_add (v + 1) 52).trans ?_)⟩
      norm_num
  have hr := h.rounds
  rw [hm, mul_div_cancel_right₀ _ (two_zpow_pos u).ne'] at hr
  rw [hr.eq_of_natCast, hm]

/-- What is below half the least number fits as zero. -/
theorem eq_zero (h : Fits q u n) (hq : q < 2 ^ (-1075 : ℤ)) : n = 0 := by
  have hu : u = -1074 := h.place.le.resolve_right fun hle => by
    have := two_zpow_lt_iff.mp (hle.trans_lt hq)
    have := h.place.low
    omega
  subst hu
  have hQ : q / 2 ^ (-1074 : ℤ) < 1 / 2 := by
    rw [div_lt_iff₀ (two_zpow_pos _), two_zpow_neg_1074]
    linarith
  have := (abs_le.mp h.rounds.near).2
  have hn : (n : ℚ) < 1 := by linarith
  exact Nat.lt_one_iff.mp (by exact_mod_cast hn)

theorem size_ofMagnitude (h : Fits q u n) (negative : Bool)
    (hm : n + (u + 1074).toNat * exponentPlace ≤ infinity) :
    (ofMagnitude negative (n + (u + 1074).toNat * exponentPlace)).size = n * 2 ^ u := by
  have hlow := h.place.low
  have hj : (u + 1074).toNat = 0 ∨ 2 ^ 52 ≤ n := h.ge.imp_left fun hu => by rw [hu]; rfl
  rw [Binary64.size_ofMagnitude negative h.le hj hm, Int.toNat_of_nonneg (by omega), add_sub_cancel_right]

end Fits

/-! ## Rounded quotients -/

/-- A finite number of this sign is nearest to a size, and even if another one is as near. -/
structure IsNearest (x : Binary64) (negative : Bool) (q : ℚ) : Prop where
  finite : x.IsFinite
  sign : x.isNegative = negative
  near : ∀ y : Binary64, y.IsFinite → |x.size - q| ≤ |y.size - q|
  even : ∀ y : Binary64, y.IsFinite → y.size ≠ x.size → |y.size - q| = |x.size - q| → x.magnitude % 2 = 0
  /-- half a unit in the last place at most -/
  error : |x.size - q| ≤ q / 2 ^ 53 + 2 ^ (-1075 : ℤ)

section Quotients

variable (negative : Bool) (num : ℕ) {den : ℕ}

theorem roundRatio_le (den : ℕ) : roundRatio num den ≤ infinity := by
  unfold roundRatio
  split
  · exact Nat.zero_le _
  · exact Nat.min_le_left _ _

/-- A quotient is rounded to infinity just where it is too large. -/
theorem isInfinite_ofRatio_iff (hd : 0 < den) :
    (ofRatio negative num den).isInfinite = true ↔ overflowBound ≤ (num : ℚ) / den := by
  obtain ⟨u, n, hf, hr⟩ := roundRatio_spec num hd
  rw [← hf.infinity_le_iff, isInfinite, decide_eq_true_iff, ofRatio, hr,
    magnitude_ofMagnitude negative (Nat.min_le_left _ _), min_eq_left_iff]

/-- A quotient that is not too large is rounded to the number that fits. -/
theorem exists_fits_ofRatio (hd : 0 < den) (hq : (num : ℚ) / den < overflowBound) :
    ∃ u n, Fits (num / den) u n ∧ (ofRatio negative num den).size = n * 2 ^ u ∧
      (ofRatio negative num den).magnitude = n + (u + 1074).toNat * exponentPlace ∧
      n + (u + 1074).toNat * exponentPlace < infinity := by
  obtain ⟨u, n, hf, hr⟩ := roundRatio_spec num hd
  have hm : n + (u + 1074).toNat * exponentPlace < infinity := not_le.mp (mt hf.infinity_le_iff.mp (not_le.mpr hq))
  rw [Nat.min_eq_right hm.le] at hr
  rw [ofRatio, hr]
  exact ⟨u, n, hf, hf.size_ofMagnitude negative hm.le, magnitude_ofMagnitude negative hm.le, hm⟩

/-- **A quotient that is not too large is rounded to the nearest number**, a half to the even one. -/
theorem isNearest_ofRatio (hd : 0 < den) (hq : (num : ℚ) / den < overflowBound) :
    (ofRatio negative num den).IsNearest negative (num / den) := by
  obtain ⟨u, n, hf, hs, hm, hlt⟩ := exists_fits_ofRatio negative num hd hq
  refine ⟨hm.trans_lt hlt, isNegative_ofMagnitude negative (roundRatio_le num den), fun y _ => ?_,
    fun y _ hne he => ?_, ?_⟩
  · rw [hs]
    exact hf.nearest y
  · rw [hs] at hne he
    have hplace : exponentPlace % 2 = 0 := by decide
    rw [hm, Nat.add_mod, Nat.mul_mod, hplace, hf.even_of_tie hne he]
    rfl
  · rw [hs]
    exact hf.error (by positivity)

/-- A quotient that is a number is not changed. -/
theorem size_ofRatio_of_grid (hd : 0 < den) (hq : (num : ℚ) / den < overflowBound) {k : ℕ} {v : ℤ}
    (hk : k ≤ 2 ^ 53) (hv : -1074 ≤ v) (h : (num : ℚ) / den = k * 2 ^ v) :
    (ofRatio negative num den).size = num / den := by
  obtain ⟨u, n, hf, hs, -⟩ := exists_fits_ofRatio negative num hd hq
  rw [hs, hf.eq_of_grid hk hv h]

/-- A quotient below half the least number is rounded to zero. -/
theorem size_ofRatio_eq_zero (hd : 0 < den) (hq : (num : ℚ) / den < 2 ^ (-1075 : ℤ)) :
    (ofRatio negative num den).size = 0 := by
  have hbound : (2 : ℚ) ^ (-1075 : ℤ) ≤ overflowBound := by
    rw [overflowBound_eq]
    refine (two_zpow_le (by norm_num : (-1075 : ℤ) ≤ 971)).trans ?_
    exact le_mul_of_one_le_left (two_zpow_pos _).le (by norm_num)
  obtain ⟨u, n, hf, hs, -⟩ := exists_fits_ofRatio negative num hd (hq.trans_le hbound)
  rw [hs, hf.eq_zero hq, Nat.cast_zero, zero_mul]

/-- Equal quotients are rounded alike. -/
theorem ofRatio_congr {num' den' : ℕ} (hd : 0 < den) (hd' : 0 < den') (h : (num : ℚ) / den = num' / den') :
    ofRatio negative num den = ofRatio negative num' den' := by
  obtain ⟨u, n, hf, hr⟩ := roundRatio_spec num hd
  obtain ⟨v, m, hf', hr'⟩ := roundRatio_spec num' hd'
  rw [h] at hf
  obtain ⟨rfl, rfl⟩ := hf.unique hf'
  rw [ofRatio, ofRatio, hr, hr']

/-- The sign is set apart from the rounding. -/
theorem neg_ofRatio (den : ℕ) : (ofRatio false num den).neg = ofRatio true num den := by
  have hle := roundRatio_le num den
  rw [neg, ofRatio, isNegative_ofMagnitude false hle, magnitude_ofMagnitude false hle]
  rfl

end Quotients

/-! ## Naturals, products and quotients -/

section

variable {x y : Binary64}

theorem isNearest_ofNat {n : ℕ} (h : (n : ℚ) < overflowBound) : (ofNat n).IsNearest false n := by
  have := isNearest_ofRatio false n Nat.one_pos (by rwa [Nat.cast_one, div_one])
  rwa [Nat.cast_one, div_one] at this

/-- A natural of few bits, times a power of two, is not changed. -/
theorem size_ofNat_of_grid {n k v : ℕ} (h : (n : ℚ) < overflowBound) (hk : k ≤ 2 ^ 53) (hn : n = k * 2 ^ v) :
    (ofNat n).size = n := by
  have hn : (n : ℚ) / (1 : ℕ) = k * 2 ^ (v : ℤ) := by
    rw [Nat.cast_one, div_one, hn]
    push_cast
    rw [zpow_natCast]
  have := size_ofRatio_of_grid false n Nat.one_pos (by rwa [Nat.cast_one, div_one]) hk (by omega) hn
  rwa [Nat.cast_one, div_one] at this

theorem denominator_pos (x : Binary64) : 0 < x.denominator :=
  Nat.pow_pos (by decide)

theorem numerator_div_denominator (x : Binary64) : (x.numerator : ℚ) / x.denominator = x.size := by
  rw [size, zpow_eq_div (by norm_num), numerator, denominator]
  simp only [Nat.pow_eq]
  push_cast
  ring

theorem numerator_pos (h : 0 < x.size) : 0 < x.numerator := by
  have hd : (0 : ℚ) < x.denominator := by exact_mod_cast x.denominator_pos
  rw [← numerator_div_denominator, div_pos_iff_of_pos_right hd] at h
  exact_mod_cast h

theorem mul_ratio (x y : Binary64) :
    ((x.numerator * y.numerator : ℕ) : ℚ) / (x.denominator * y.denominator : ℕ) = x.size * y.size := by
  rw [← numerator_div_denominator, ← numerator_div_denominator]
  push_cast
  exact mul_div_mul_comm _ _ _ _

theorem div_ratio (x y : Binary64) :
    ((x.numerator * y.denominator : ℕ) : ℚ) / (x.denominator * y.numerator : ℕ) = x.size / y.size := by
  rw [← numerator_div_denominator, ← numerator_div_denominator]
  push_cast
  exact (div_div_div_eq _ _ _ _).symm

theorem isInfinite_mul_iff : (x.mul y).isInfinite = true ↔ overflowBound ≤ x.size * y.size := by
  rw [mul, isInfinite_ofRatio_iff _ _ (Nat.mul_pos x.denominator_pos y.denominator_pos), mul_ratio]

/-- A product is the exact one, rounded. -/
theorem isNearest_mul (h : x.size * y.size < overflowBound) :
    (x.mul y).IsNearest (x.isNegative != y.isNegative) (x.size * y.size) := by
  rw [← mul_ratio] at h ⊢
  exact isNearest_ofRatio _ _ (Nat.mul_pos x.denominator_pos y.denominator_pos) h

/-- A quotient is the exact one, rounded. -/
theorem isNearest_div (hy : 0 < y.size) (h : x.size / y.size < overflowBound) :
    (x.div y).IsNearest (x.isNegative != y.isNegative) (x.size / y.size) := by
  rw [← div_ratio] at h ⊢
  exact isNearest_ofRatio _ _ (Nat.mul_pos x.denominator_pos (numerator_pos hy)) h

theorem mul_eq_ofRatio {num den : ℕ} (hd : 0 < den) (h : x.size * y.size = num / den) :
    x.mul y = ofRatio (x.isNegative != y.isNegative) num den := by
  rw [← mul_ratio] at h
  exact ofRatio_congr _ _ (Nat.mul_pos x.denominator_pos y.denominator_pos) hd h

theorem div_eq_ofRatio (hy : 0 < y.size) {num den : ℕ} (hd : 0 < den) (h : x.size / y.size = num / den) :
    x.div y = ofRatio (x.isNegative != y.isNegative) num den := by
  rw [← div_ratio] at h
  exact ofRatio_congr _ _ (Nat.mul_pos x.denominator_pos (numerator_pos hy)) hd h

/-- A quotient below half the least number is rounded to zero. -/
theorem size_div_eq_zero (hy : 0 < y.size) (h : x.size / y.size < 2 ^ (-1075 : ℤ)) : (x.div y).size = 0 := by
  rw [← div_ratio] at h
  exact size_ofRatio_eq_zero _ _ (Nat.mul_pos x.denominator_pos (numerator_pos hy)) h

/-- Just the zeros have no size. -/
theorem isZero_iff : x.isZero = true ↔ x.size = 0 := by
  rw [isZero, decide_eq_true_iff, size, mul_eq_zero, or_iff_left (two_zpow_pos _).ne', Nat.cast_eq_zero, significand]
  have : 0 < exponentPlace := by decide
  split <;> omega

theorem magnitude_neg (h : x.IsFinite) : x.neg.magnitude = x.magnitude :=
  magnitude_ofMagnitude _ (le_of_lt h)

theorem isNegative_neg (h : x.IsFinite) : x.neg.isNegative = !x.isNegative :=
  isNegative_ofMagnitude _ (le_of_lt h)

/-- The size does not depend on the sign. -/
theorem size_neg (h : x.IsFinite) : x.neg.size = x.size := by
  rw [size, size, significand, significand, exponent, exponent, magnitude_neg h]

theorem isFinite_neg (h : x.IsFinite) : x.neg.IsFinite := by
  rw [IsFinite, magnitude_neg h]
  exact h

end

end LinkedSelect.Binary64
