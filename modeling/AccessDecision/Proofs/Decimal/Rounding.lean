import AccessDecision.Decimal.Binary64
import Mathlib.Algebra.Order.Field.Power
import Mathlib.Data.Rat.Cast.Order
import Mathlib.Tactic.FieldSimp
import Mathlib.Tactic.Linarith
import Mathlib.Tactic.Positivity
import Mathlib.Tactic.Ring

/-
  Rounding to doubles

  A quotient is scaled to 53 bits, unless the least exponent stops it, and rounded to a
  whole number there. So the error is at most half a unit of the last place, and only
  quotients near `2 ^ 1024` and beyond it have no double.

  What is proved:
    1. `value_nearest_error` — rounding is off by half a unit at most.
    2. `value_ofRatio_bounds` — so from one on it is off by one part in `2 ^ 53`.
    3. `isSome_ofRatio` and `ofRatio_eq_none` — up to the greatest double there is a
       nearest double, and from `2 ^ 1024` on there is none.
-/

namespace AccessDecision.Decimal.Binary64

/-! ## Values -/

/-- The exact value. -/
def value (x : Binary64) : ℚ := x.significand * 2 ^ x.exponent

/-- The quotient of a pair. -/
def ratio (r : Nat × Nat) : ℚ := r.1 / r.2

/-- The unit of the last place of the greatest doubles. -/
def topUnit : ℚ := 2 ^ maxExponent

/-- The greatest double is a whole number. -/
def greatest : Nat := (2 ^ 53 - 1) * 2 ^ 971

theorem topUnit_eq : topUnit = 2 ^ 971 := zpow_natCast 2 971

theorem topUnit_pos : 0 < topUnit := zpow_pos two_pos _

theorem cast_mul_topUnit (k : Nat) : ((k * 2 ^ 971 : Nat) : ℚ) = k * topUnit := by
  rw [topUnit_eq, Nat.cast_mul, Nat.cast_pow, Nat.cast_ofNat]

theorem cast_greatest : (greatest : ℚ) = (2 ^ 53 - 1) * topUnit := by
  rw [greatest, cast_mul_topUnit]
  norm_num only

theorem scale_den_pos (num : Nat) {den : Nat} (hden : 0 < den) (e : Int) :
    0 < (scale num den e).2 := by
  cases e with
  | ofNat n => exact hden
  | negSucc n => exact Nat.mul_pos hden (Nat.two_pow_pos _)

theorem ratio_scale (num den : Nat) (e : Int) : ratio (scale num den e) = num / den * 2 ^ e := by
  cases e with
  | ofNat n =>
    simp only [ratio, scale, Int.ofNat_eq_natCast, zpow_natCast]
    push_cast
    ring
  | negSucc n =>
    simp only [ratio, scale, zpow_negSucc]
    push_cast
    rw [div_mul_eq_div_div, div_eq_mul_inv (_ / _)]

/-- A quotient is its scaled quotient in units of the scale. -/
theorem quotient_eq_scaled (num den : Nat) (e : Int) :
    (num : ℚ) / den = ratio (scale num den (-e)) * 2 ^ e := by
  rw [ratio_scale, mul_assoc, ← zpow_add₀ two_ne_zero, neg_add_cancel, zpow_zero, mul_one]

theorem ratio_toRatio (x : Binary64) : ratio x.toRatio = x.value := by
  rw [toRatio, ratio_scale, Nat.cast_one, div_one, value]

theorem two_zpow_pos (e : Int) : (0 : ℚ) < 2 ^ e := zpow_pos two_pos e

/-! ## Rounding a quotient to a whole number -/

section
variable {n d : Nat}

/-- The nearest whole number is off by a half at most. -/
theorem roundDiv_error (hd : 0 < d) :
    2 * (roundDiv n d * d) ≤ 2 * n + d ∧ 2 * n ≤ 2 * (roundDiv n d * d) + d := by
  have hdivision := Nat.div_add_mod' n d
  have hr := Nat.mod_lt n hd
  have hsucc : (n / d + 1) * d = n / d * d + d := Nat.succ_mul _ _
  unfold roundDiv
  dsimp only
  split
  · omega
  · split
    · omega
    · split <;> omega

/-- Rounding does not pass a whole number. -/
theorem roundDiv_le {bound : Nat} (hd : 0 < d) (h : n ≤ bound * d) : roundDiv n d ≤ bound := by
  have hquotient : n / d ≤ bound := Nat.div_le_of_le_mul (Nat.mul_comm bound d ▸ h)
  -- It is rounded up only behind the whole number below.
  have hup : 0 < n % d → n / d + 1 ≤ bound := by
    intro hr
    have hdivision := Nat.div_add_mod' n d
    by_contra hlt
    have heq : n / d = bound := by omega
    rw [heq] at hdivision
    omega
  unfold roundDiv
  dsimp only
  split
  · exact hquotient
  · split
    · exact hup (by omega)
    · split
      · exact hquotient
      · exact hup (by omega)

end

/-! ## The exponent of a quotient -/

section
variable {num den : Nat}

theorem log2_bounds {n : Nat} (hn : 0 < n) :
    (2 : ℚ) ^ (n.log2 : Int) ≤ n ∧ (n : ℚ) < 2 ^ (n.log2 + 1 : Int) := by
  have hlow : 2 ^ n.log2 ≤ n := Nat.log2_self_le (Nat.ne_of_gt hn)
  have hhigh : n < 2 ^ (n.log2 + 1) := Nat.lt_log2_self
  constructor
  · rw [zpow_natCast]
    exact_mod_cast hlow
  · rw [← Nat.cast_succ, zpow_natCast]
    exact_mod_cast hhigh

/-- The lengths of numerator and denominator tell the quotient up to a factor of two
either way. -/
theorem quotient_bounds (hnum : 0 < num) (hden : 0 < den) :
    (2 : ℚ) ^ ((num.log2 : Int) - den.log2 - 1) < num / den ∧
      (num : ℚ) / den < 2 ^ ((num.log2 : Int) - den.log2 + 1) := by
  obtain ⟨hnumlow, hnumhigh⟩ := log2_bounds hnum
  obtain ⟨hdenlow, hdenhigh⟩ := log2_bounds hden
  have hden' : (0 : ℚ) < den := Nat.cast_pos.mpr hden
  constructor
  · rw [lt_div_iff₀ hden']
    calc (2 : ℚ) ^ ((num.log2 : Int) - den.log2 - 1) * den
        < 2 ^ ((num.log2 : Int) - den.log2 - 1) * 2 ^ (den.log2 + 1 : Int) :=
          mul_lt_mul_of_pos_left hdenhigh (two_zpow_pos _)
      _ = 2 ^ (num.log2 : Int) := by
          rw [← zpow_add₀ two_ne_zero]
          congr 1
          omega
      _ ≤ num := hnumlow
  · rw [div_lt_iff₀ hden']
    calc (num : ℚ) < 2 ^ (num.log2 + 1 : Int) := hnumhigh
      _ = 2 ^ ((num.log2 : Int) - den.log2 + 1) * 2 ^ (den.log2 : Int) := by
          rw [← zpow_add₀ two_ne_zero]
          congr 1
          omega
      _ ≤ 2 ^ ((num.log2 : Int) - den.log2 + 1) * den :=
          mul_le_mul_of_nonneg_left hdenlow (two_zpow_pos _).le

/-- In units of the chosen power of two the quotient has at most 53 bits, and no fewer
unless the exponent is the least one. -/
theorem exponentFor_bounds (hnum : 0 < num) (hden : 0 < den) :
    (num : ℚ) / den < 2 ^ 53 * 2 ^ exponentFor num den ∧
      (exponentFor num den = minExponent ∨
        2 ^ 52 * 2 ^ exponentFor num den ≤ (num : ℚ) / den) := by
  obtain ⟨hlow, hhigh⟩ := quotient_bounds hnum hden
  obtain ⟨guess, hguess⟩ : ∃ guess : Int, (num.log2 : Int) - den.log2 - 52 = guess := ⟨_, rfl⟩
  have hpow : ∀ e : Int, (2 : ℚ) ^ (guess + e) = 2 ^ e * 2 ^ guess := fun e => by
    rw [zpow_add₀ two_ne_zero, mul_comm]
  rw [show (num.log2 : Int) - den.log2 - 1 = guess + 51 by omega, hpow] at hlow
  rw [show (num.log2 : Int) - den.log2 + 1 = guess + 53 by omega, hpow] at hhigh
  obtain ⟨exponent, hexponent, hlt, hle⟩ : ∃ e : Int, exponentFor num den = max minExponent e ∧
      (num : ℚ) / den < 2 ^ 53 * 2 ^ e ∧ 2 ^ 52 * 2 ^ e ≤ (num : ℚ) / den := by
    -- The guess is right, or by one too great.
    have hpos := scale_den_pos num hden (-guess)
    have hscaled := quotient_eq_scaled num den guess
    refine ⟨if (scale num den (-guess)).1 / (scale num den (-guess)).2 < 2 ^ 52 then guess - 1
      else guess, by rw [← hguess]; rfl, ?_⟩
    split
    · rename_i hsmall
      have hnat := (Nat.div_lt_iff_lt_mul hpos).mp hsmall
      have hsmall' : ratio (scale num den (-guess)) < 2 ^ 52 := by
        rw [ratio, div_lt_iff₀ (Nat.cast_pos.mpr hpos)]
        exact_mod_cast hnat
      have hprev : (2 : ℚ) ^ guess = 2 * 2 ^ (guess - 1) := by
        rw [zpow_sub_one₀ two_ne_zero]
        field_simp
      have hunits := two_zpow_pos (guess - 1)
      have hless := mul_lt_mul_of_pos_right hsmall' (two_zpow_pos guess)
      rw [← hscaled] at hless
      norm_num at hlow
      rw [hprev] at hless hlow
      constructor
      · linarith
      · linarith
    · rename_i hlarge
      have hnat := (Nat.le_div_iff_mul_le hpos).mp (Nat.le_of_not_lt hlarge)
      have hlarge' : 2 ^ 52 ≤ ratio (scale num den (-guess)) := by
        rw [ratio, le_div_iff₀ (Nat.cast_pos.mpr hpos)]
        exact_mod_cast hnat
      refine ⟨by exact_mod_cast hhigh, ?_⟩
      rw [hscaled]
      exact mul_le_mul_of_nonneg_right hlarge' (two_zpow_pos guess).le
  rw [hexponent]
  constructor
  · refine lt_of_lt_of_le hlt (mul_le_mul_of_nonneg_left ?_ (by positivity))
    exact zpow_le_zpow_right₀ one_le_two (le_max_right _ _)
  · rcases le_total exponent minExponent with hmin | hmin
    · exact .inl (max_eq_left hmin)
    · exact .inr (by rwa [max_eq_right hmin])

/-! ## The nearest double -/

/-- The nearest double if exponents had no upper bound. -/
def nearest (num den : Nat) : Binary64 :=
  let e := exponentFor num den
  let m := roundDiv (scale num den (-e)).1 (scale num den (-e)).2
  if m = 2 ^ 53 then ⟨2 ^ 52, e + 1⟩ else ⟨m, e⟩

theorem ofRatio_of_pos (hnum : 0 < num) :
    ofRatio num den =
      if (nearest num den).exponent ≤ maxExponent then some (nearest num den) else none := by
  rw [ofRatio, if_neg (Nat.ne_of_gt hnum)]
  rfl

theorem value_nearest (num den : Nat) :
    (nearest num den).value = roundDiv (scale num den (-exponentFor num den)).1
      (scale num den (-exponentFor num den)).2 * 2 ^ exponentFor num den := by
  unfold nearest
  dsimp only
  split
  · rename_i h
    rw [h, value, zpow_add_one₀ two_ne_zero]
    push_cast
    ring
  · rfl

/-- Rounding is off by half a unit at most. -/
theorem value_nearest_error (num : Nat) {den : Nat} (hden : 0 < den) :
    |(nearest num den).value - num / den| ≤ 2 ^ exponentFor num den / 2 := by
  obtain ⟨e, he⟩ : ∃ e, exponentFor num den = e := ⟨_, rfl⟩
  have hpos := scale_den_pos num hden (-e)
  have hpos' : (0 : ℚ) < (scale num den (-e)).2 := Nat.cast_pos.mpr hpos
  obtain ⟨habove, hbelow⟩ := roundDiv_error (n := (scale num den (-e)).1) hpos
  have hscaled := quotient_eq_scaled num den e
  have herror : |(roundDiv (scale num den (-e)).1 (scale num den (-e)).2 : ℚ) -
      ratio (scale num den (-e))| ≤ 1 / 2 := by
    rw [ratio, abs_le]
    have habove' := (Nat.cast_le (α := ℚ)).mpr habove
    have hbelow' := (Nat.cast_le (α := ℚ)).mpr hbelow
    push_cast at habove' hbelow'
    constructor
    · rw [neg_le_sub_iff_le_add, div_le_iff₀ hpos']
      linarith
    · rw [sub_le_iff_le_add, ← sub_le_iff_le_add', le_div_iff₀ hpos']
      linarith
  rw [value_nearest, he, hscaled, ← sub_mul, abs_mul, abs_of_pos (two_zpow_pos e)]
  have hbound := mul_le_mul_of_nonneg_right herror (two_zpow_pos e).le
  rwa [one_div_mul_eq_div] at hbound

/-- A rounded quotient is the nearest double, or zero. -/
theorem eq_nearest_of_ofRatio {x : Binary64} (h : ofRatio num den = some x) :
    (num = 0 ∧ x = zero) ∨ (0 < num ∧ x = nearest num den) := by
  rcases Nat.eq_zero_or_pos num with rfl | hnum
  · exact .inl ⟨rfl, (Option.some.inj h).symm⟩
  · rw [ofRatio_of_pos hnum] at h
    split at h
    · exact .inr ⟨hnum, (Option.some.inj h).symm⟩
    · cases h

theorem value_zero : zero.value = 0 := by
  rw [value, zero, Nat.cast_zero, zero_mul]

theorem ulp_le (hnum : 0 < num) (hden : 0 < den) :
    (2 : ℚ) ^ exponentFor num den / 2 ≤ num / den / 2 ^ 53 ∨
      (2 : ℚ) ^ exponentFor num den / 2 ≤ 1 / 2 ^ 53 := by
  rcases (exponentFor_bounds hnum hden).2 with hmin | hfull
  · right
    have hle : (2 : ℚ) ^ exponentFor num den ≤ 2 ^ (-52 : Int) :=
      zpow_le_zpow_right₀ one_le_two (by rw [hmin]; decide)
    calc (2 : ℚ) ^ exponentFor num den / 2
        ≤ 2 ^ (-52 : Int) / 2 := div_le_div_of_nonneg_right hle two_pos.le
      _ = 1 / 2 ^ 53 := by norm_num
  · left
    rw [le_div_iff₀ (by norm_num)]
    linarith

/-- A quotient that is zero or one at least is rounded by one part in `2 ^ 53` at
most. -/
theorem value_ofRatio_bounds {x : Binary64} (hden : 0 < den) (h : ofRatio num den = some x)
    (hone : num = 0 ∨ den ≤ num) :
    (num : ℚ) / den * (1 - 1 / 2 ^ 53) ≤ x.value ∧
      x.value ≤ (num : ℚ) / den * (1 + 1 / 2 ^ 53) := by
  rcases eq_nearest_of_ofRatio h with ⟨rfl, rfl⟩ | ⟨hnum, rfl⟩
  · simp [value_zero]
  · have hone' : (1 : ℚ) ≤ num / den := by
      rw [le_div_iff₀ (Nat.cast_pos.mpr hden), one_mul]
      exact_mod_cast hone.resolve_left (Nat.ne_of_gt hnum)
    have hulp : (2 : ℚ) ^ exponentFor num den / 2 ≤ num / den / 2 ^ 53 := by
      rcases ulp_le hnum hden with hulp | hulp
      · exact hulp
      · exact hulp.trans (div_le_div_of_nonneg_right hone' (by norm_num))
    obtain ⟨hlow, hhigh⟩ := abs_le.mp ((value_nearest_error num hden).trans hulp)
    constructor <;> linarith

/-- No quotient is rounded far up. -/
theorem value_ofRatio_le {x : Binary64} (hden : 0 < den) (h : ofRatio num den = some x) :
    x.value ≤ 2 * (num / den) + 1 := by
  have hquotient : (0 : ℚ) ≤ num / den := by positivity
  rcases eq_nearest_of_ofRatio h with ⟨rfl, rfl⟩ | ⟨hnum, rfl⟩
  · rw [value_zero]
    linarith
  · have hhigh := (abs_le.mp (value_nearest_error num hden)).2
    rcases ulp_le hnum hden with hulp | hulp <;> linarith

/-! ## The range of doubles -/

/-- Up to the greatest double there is a nearest double. -/
theorem isSome_ofRatio (hden : 0 < den) (h : (num : ℚ) / den ≤ greatest) :
    (ofRatio num den).isSome := by
  rcases Nat.eq_zero_or_pos num with rfl | hnum
  · rfl
  have hpos := scale_den_pos num hden (-exponentFor num den)
  -- A full significand at a greater exponent would be beyond the greatest double.
  have hexponent : exponentFor num den ≤ maxExponent := by
    rcases (exponentFor_bounds hnum hden).2 with hmin | hfull
    · rw [hmin]
      decide
    · by_contra hgreater
      have hle : (2 : ℚ) ^ (maxExponent + 1) ≤ 2 ^ exponentFor num den :=
        zpow_le_zpow_right₀ one_le_two (by omega)
      have hpow : (2 : ℚ) ^ (maxExponent + 1) = topUnit * 2 := zpow_add_one₀ two_ne_zero _
      rw [cast_greatest] at h
      linarith [topUnit_pos]
  rw [ofRatio_of_pos hnum, if_pos]
  · rfl
  · unfold nearest
    dsimp only
    split
    · rename_i hcarry
      -- A carry at the greatest exponent would need more than the greatest significand.
      have hlt : exponentFor num den ≠ maxExponent := by
        intro heq
        have hratio := ratio_scale num den (-exponentFor num den)
        rw [heq] at hratio hpos hcarry
        have hle : ratio (scale num den (-maxExponent)) ≤ 2 ^ 53 - 1 := by
          have hinverse : (2 : ℚ) ^ (-maxExponent) = topUnit⁻¹ := zpow_neg _ _
          rw [hratio, hinverse, ← div_eq_mul_inv, div_le_iff₀ topUnit_pos, ← cast_greatest]
          exact h
        rw [ratio, div_le_iff₀ (Nat.cast_pos.mpr hpos)] at hle
        have hnat : (scale num den (-maxExponent)).1 ≤
            (2 ^ 53 - 1) * (scale num den (-maxExponent)).2 := by
          have hcast : ((2 ^ 53 - 1 : Nat) : ℚ) = 2 ^ 53 - 1 := by norm_num
          rw [← hcast] at hle
          exact_mod_cast hle
        have hround := roundDiv_le hpos hnat
        rw [hcarry] at hround
        exact absurd hround (by decide)
      show exponentFor num den + 1 ≤ maxExponent
      omega
    · exact hexponent

/-- From `2 ^ 1024` on there is none. -/
theorem ofRatio_eq_none (hden : 0 < den) (h : 2 ^ 53 * topUnit ≤ (num : ℚ) / den) :
    ofRatio num den = none := by
  have hnum : 0 < num := by
    rcases Nat.eq_zero_or_pos num with rfl | hnum
    · rw [Nat.cast_zero, zero_div] at h
      linarith [topUnit_pos]
    · exact hnum
  have hlt := lt_of_le_of_lt h (exponentFor_bounds hnum hden).1
  have hexponent : maxExponent < exponentFor num den := by
    by_contra hle
    have hpow : (2 : ℚ) ^ exponentFor num den ≤ topUnit :=
      zpow_le_zpow_right₀ one_le_two (by omega)
    linarith
  rw [ofRatio_of_pos hnum, if_neg]
  unfold nearest
  dsimp only
  split <;> dsimp only <;> omega

end

end AccessDecision.Decimal.Binary64
