import AccessDecision.Proofs.Decimal.Rounding

/-
  Decimal numbers as doubles

  A significand and a power of ten are rounded each, and so is their product. Three
  roundings move a number by less than three units of the last place, so the double of
  a number can be absent or present against its size only that close to the end of the
  range. Quotients are small and always have a double.

  What is proved:
    1. `isSome_ofDecimal` — up to three units below `2 ^ 1024` there is a double.
    2. `ofDecimal_eq_none` — from three units above it there is none.
-/

namespace AccessDecision.Decimal.Binary64

/-! ## Products and quotients -/

section
variable {x p : Binary64} {n : Nat}

/-- A product is rounded from the exact product. -/
theorem mulPowTen_eq_ofRatio (hp : ofRatio (10 ^ n) 1 = some p) :
    ∃ num den : Nat, 0 < den ∧ (num : ℚ) / den = x.value * p.value ∧
      x.mulPowTen n = ofRatio num den := by
  refine ⟨x.toRatio.1 * p.toRatio.1, x.toRatio.2 * p.toRatio.2, ?_, ?_, ?_⟩
  · exact Nat.mul_pos (scale_den_pos _ Nat.one_pos _) (scale_den_pos _ Nat.one_pos _)
  · rw [← ratio_toRatio, ← ratio_toRatio, ratio, ratio, div_mul_div_comm]
    push_cast
    rfl
  · rw [mulPowTen, hp]
    rfl

/-- A quotient is rounded from the exact quotient. -/
theorem divPowTen_eq_ofRatio (hp : ofRatio (10 ^ n) 1 = some p) (hpos : 0 < p.value) :
    ∃ num den : Nat, 0 < den ∧ (num : ℚ) / den = x.value / p.value ∧
      x.divPowTen n = ofRatio num den := by
  have hnum : 0 < p.toRatio.1 := by
    refine Nat.pos_of_ne_zero fun hzero => ?_
    rw [← ratio_toRatio, ratio, hzero, Nat.cast_zero, zero_div] at hpos
    exact lt_irrefl _ hpos
  refine ⟨x.toRatio.1 * p.toRatio.2, x.toRatio.2 * p.toRatio.1, ?_, ?_, ?_⟩
  · exact Nat.mul_pos (scale_den_pos _ Nat.one_pos _) hnum
  · rw [← ratio_toRatio, ← ratio_toRatio, ratio, ratio, div_div_div_eq]
    push_cast
    rfl
  · rw [divPowTen, hp]
    rfl

/-- A power of ten that is a double is rounded by one part in `2 ^ 53` at most. -/
theorem ofRatio_powTen (hn : n ≤ maxPowTen) :
    ∃ p, ofRatio (10 ^ n) 1 = some p ∧
      10 ^ n * (1 - 1 / 2 ^ 53) ≤ p.value ∧ p.value ≤ 10 ^ n * (1 + 1 / 2 ^ 53) := by
  have hpow : ((10 ^ n : Nat) : ℚ) / (1 : Nat) = 10 ^ n := by simp
  have hrange : ((10 ^ n : Nat) : ℚ) / (1 : Nat) ≤ greatest := by
    have hgreatest : 10 ^ maxPowTen ≤ greatest := by decide +kernel
    rw [Nat.cast_one, div_one]
    exact Nat.cast_le.mpr ((Nat.pow_le_pow_right (by decide) hn).trans hgreatest)
  obtain ⟨p, hp⟩ := Option.isSome_iff_exists.mp (isSome_ofRatio Nat.one_pos hrange)
  have hbounds := value_ofRatio_bounds Nat.one_pos hp (.inr (Nat.one_le_pow _ _ (by decide)))
  rw [hpow] at hbounds
  exact ⟨p, hp, hbounds⟩

end

/-! ## Dividing again and again -/

/-- What a quotient by a power of ten is at most. -/
theorem divPowTen_bounded {x : Binary64} {n : Nat} (hx : x.value ≤ 2 ^ 65) (hn : n ≤ maxPowTen) :
    ∃ y, x.divPowTen n = some y ∧ (n = maxPowTen → y.value ≤ 2 ^ 65) := by
  obtain ⟨p, hp, hlow, _⟩ := ofRatio_powTen hn
  have hhalf : (10 : ℚ) ^ n * (1 / 2) ≤ p.value := by
    refine le_trans (mul_le_mul_of_nonneg_left ?_ (by positivity)) hlow
    norm_num
  have hten : (1 : ℚ) ≤ 10 ^ n := one_le_pow₀ (by norm_num)
  have hpos : 0 < p.value := by linarith
  obtain ⟨num, den, hden, hquotient, hround⟩ := divPowTen_eq_ofRatio (x := x) hp hpos
  have hsmall : (num : ℚ) / den ≤ 2 ^ 66 := by
    rw [hquotient, div_le_iff₀ hpos]
    linarith
  have hrange : (num : ℚ) / den ≤ greatest := by
    have hnat : 2 ^ 66 ≤ greatest := by decide +kernel
    exact hsmall.trans (by exact_mod_cast hnat)
  obtain ⟨y, hy⟩ := Option.isSome_iff_exists.mp (isSome_ofRatio hden hrange)
  refine ⟨y, hround.trans hy, fun hmax => ?_⟩
  have hle := value_ofRatio_le hden hy
  have hgreat : (10 : ℚ) ^ 3 ≤ 10 ^ n := by
    rw [hmax]
    exact pow_le_pow_right₀ (by norm_num) (by decide)
  have hless : (num : ℚ) / den ≤ 2 ^ 63 := by
    rw [hquotient, div_le_iff₀ hpos]
    linarith
  linarith

/-- Numbers that are divided stay in range. -/
theorem isSome_shrink (fuel : Nat) {x : Binary64} (n : Nat) (hx : x.value ≤ 2 ^ 65) :
    (ofDecimal.shrink fuel x n).isSome := by
  induction fuel generalizing x n with
  | zero => rfl
  | succ fuel ih =>
    rw [ofDecimal.shrink]
    split
    · rename_i hn
      obtain ⟨y, hy, _⟩ := divPowTen_bounded hx hn
      rw [hy]
      rfl
    · split
      · rfl
      · obtain ⟨y, hy, hbound⟩ := divPowTen_bounded hx (Nat.le_refl maxPowTen)
        rw [hy]
        exact ih (n - maxPowTen) (hbound rfl)

/-! ## The range of decimal numbers -/

section
variable {m : Nat}

/-- A significand of 64 bits is rounded by one part in `2 ^ 53` at most. -/
theorem ofRatio_significand (hm : m < 2 ^ 64) :
    ∃ x, ofRatio m 1 = some x ∧
      (m : ℚ) * (1 - 1 / 2 ^ 53) ≤ x.value ∧ x.value ≤ m * (1 + 1 / 2 ^ 53) := by
  have hone : (m : ℚ) / (1 : Nat) = m := by simp
  have hrange : (m : ℚ) / (1 : Nat) ≤ greatest := by
    have hnat : 2 ^ 64 ≤ greatest := by decide +kernel
    rw [hone]
    exact_mod_cast hm.le.trans hnat
  obtain ⟨x, hx⟩ := Option.isSome_iff_exists.mp (isSome_ofRatio Nat.one_pos hrange)
  have hbounds := value_ofRatio_bounds Nat.one_pos hx (Nat.eq_zero_or_pos m)
  rw [hone] at hbounds
  exact ⟨x, hx, hbounds⟩

/-- The product of a significand and a power of ten, both rounded, is off by one part in
`2 ^ 52` at most. -/
theorem product_bounds {x p : ℚ} {t : ℚ} (ht : 0 ≤ t)
    (hx : m * (1 - 1 / 2 ^ 53) ≤ x ∧ x ≤ m * (1 + 1 / 2 ^ 53))
    (hp : t * (1 - 1 / 2 ^ 53) ≤ p ∧ p ≤ t * (1 + 1 / 2 ^ 53)) :
    m * t * (1 - 1 / 2 ^ 53) ^ 2 ≤ x * p ∧ x * p ≤ m * t * (1 + 1 / 2 ^ 53) ^ 2 := by
  have hm : (0 : ℚ) ≤ m := Nat.cast_nonneg m
  have hless : (0 : ℚ) ≤ 1 - 1 / 2 ^ 53 := by norm_num
  have hlow : 0 ≤ m * (1 - 1 / 2 ^ 53 : ℚ) := mul_nonneg hm hless
  have hlow' : 0 ≤ t * (1 - 1 / 2 ^ 53 : ℚ) := mul_nonneg ht hless
  constructor
  · calc m * t * (1 - 1 / 2 ^ 53) ^ 2
        = m * (1 - 1 / 2 ^ 53) * (t * (1 - 1 / 2 ^ 53)) := by ring
      _ ≤ x * p := mul_le_mul hx.1 hp.1 hlow' (hlow.trans hx.1)
  · calc x * p
        ≤ m * (1 + 1 / 2 ^ 53) * (t * (1 + 1 / 2 ^ 53)) :=
          mul_le_mul hx.2 hp.2 (hlow'.trans hp.1) (hlow.trans (hx.1.trans hx.2))
      _ = m * t * (1 + 1 / 2 ^ 53) ^ 2 := by ring

theorem isZero_iff {x : Binary64} : x.isZero = true ↔ x.value = 0 := by
  have hunits := (two_zpow_pos x.exponent).ne'
  simp [isZero, value, hunits]

/-- A power of ten with more digits than the greatest double is greater. -/
theorem greatest_lt_powTen {e : Int} (he : 309 ≤ e) : (greatest : ℚ) < 10 ^ e := by
  have hnat : greatest < 10 ^ 309 := by decide +kernel
  calc (greatest : ℚ)
      < ((10 ^ 309 : Nat) : ℚ) := Nat.cast_lt.mpr hnat
    _ = 10 ^ (309 : Int) := by
        rw [Nat.cast_pow, Nat.cast_ofNat]
        exact (zpow_natCast 10 309).symm
    _ ≤ 10 ^ e := zpow_le_zpow_right₀ (by norm_num) he

/-- No significand gets far up without a power of ten. -/
theorem significand_lt_topUnit (hm : m < 2 ^ 64) {e : Int} (he : e ≤ 0) :
    (m : ℚ) * 10 ^ e < topUnit := by
  have hm' : (m : ℚ) ≤ 2 ^ 64 := by exact_mod_cast hm.le
  have hpow : (10 : ℚ) ^ e ≤ 1 := zpow_le_one_of_nonpos₀ (by norm_num) he
  calc (m : ℚ) * 10 ^ e
      ≤ 2 ^ 64 * 1 := mul_le_mul hm' hpow (zpow_nonneg (by norm_num) _) (by norm_num)
    _ < 2 ^ (65 : Int) := by norm_num
    _ ≤ topUnit := zpow_le_zpow_right₀ one_le_two (by decide)

/-- Up to three units of the last place below `2 ^ 1024` a decimal number has a
double. -/
theorem isSome_ofDecimal (hm : m < 2 ^ 64) {e : Int}
    (h : (m : ℚ) * 10 ^ e ≤ (2 ^ 53 - 3) * topUnit) : (ofDecimal m e).isSome := by
  obtain ⟨x, hx, hxbounds⟩ := ofRatio_significand hm
  rw [ofDecimal, hx]
  cases e with
  | negSucc n =>
    refine isSome_shrink _ _ (hxbounds.2.trans ?_)
    have hm' : (m : ℚ) ≤ 2 ^ 64 := by exact_mod_cast hm.le
    linarith
  | ofNat n =>
    rw [Int.ofNat_eq_natCast, zpow_natCast] at h
    show (if n ≤ maxPowTen then x.mulPowTen n else if x.isZero then some x else none).isSome
    split
    · rename_i hn
      obtain ⟨p, hp, hpbounds⟩ := ofRatio_powTen hn
      obtain ⟨num, den, hden, hquotient, hround⟩ := mulPowTen_eq_ofRatio (x := x) hp
      rw [hround]
      refine isSome_ofRatio hden ?_
      rw [hquotient]
      refine (product_bounds (by positivity) hxbounds hpbounds).2.trans ?_
      have hscaled := mul_le_mul_of_nonneg_right h
        (by positivity : (0 : ℚ) ≤ (1 + 1 / 2 ^ 53) ^ 2)
      refine hscaled.trans ?_
      rw [cast_greatest]
      linarith [topUnit_pos]
    · rename_i hn
      -- Only zero is that small.
      have hzero : m = 0 := by
        by_contra hne
        have hone : (1 : ℚ) ≤ m := by exact_mod_cast Nat.pos_of_ne_zero hne
        have hgreat := greatest_lt_powTen (e := n) (by unfold maxPowTen at hn; omega)
        rw [zpow_natCast, cast_greatest] at hgreat
        have hproduct := le_mul_of_one_le_left (by positivity : (0 : ℚ) ≤ 10 ^ n) hone
        linarith [topUnit_pos]
      rw [hzero, Nat.cast_zero, zero_mul, zero_mul] at hxbounds
      rw [if_pos (isZero_iff.mpr (le_antisymm hxbounds.2 hxbounds.1))]
      rfl

/-- From three units above it there is none. -/
theorem ofDecimal_eq_none (hm : m < 2 ^ 64) {e : Int}
    (h : (2 ^ 53 + 3) * topUnit ≤ (m : ℚ) * 10 ^ e) : ofDecimal m e = none := by
  obtain ⟨x, hx, hxbounds⟩ := ofRatio_significand hm
  rw [ofDecimal, hx]
  cases e with
  | negSucc n =>
    -- A quotient does not get there.
    exfalso
    have hlt := significand_lt_topUnit hm (Int.negSucc_lt_zero n).le
    linarith [topUnit_pos]
  | ofNat n =>
    rw [Int.ofNat_eq_natCast, zpow_natCast] at h
    show (if n ≤ maxPowTen then x.mulPowTen n else if x.isZero then some x else none) = none
    split
    · rename_i hn
      obtain ⟨p, hp, hpbounds⟩ := ofRatio_powTen hn
      obtain ⟨num, den, hden, hquotient, hround⟩ := mulPowTen_eq_ofRatio (x := x) hp
      rw [hround]
      refine ofRatio_eq_none hden ?_
      rw [hquotient]
      refine le_trans ?_ (product_bounds (by positivity) hxbounds hpbounds).1
      have hscaled := mul_le_mul_of_nonneg_right h
        (by positivity : (0 : ℚ) ≤ (1 - 1 / 2 ^ 53) ^ 2)
      refine le_trans ?_ hscaled
      linarith [topUnit_pos]
    · have hpos : (0 : ℚ) < m := by
        have hproduct : (0 : ℚ) < m * 10 ^ n :=
          lt_of_lt_of_le (mul_pos (by norm_num) topUnit_pos) h
        exact pos_of_mul_pos_left hproduct (by positivity)
      have hvalue : 0 < x.value := lt_of_lt_of_le (by nlinarith) hxbounds.1
      rw [if_neg (fun hzero => hvalue.ne' (isZero_iff.mp hzero))]

end

end AccessDecision.Decimal.Binary64
