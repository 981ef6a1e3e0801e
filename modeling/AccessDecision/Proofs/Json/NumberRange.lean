import AccessDecision.Proofs.Decimal.Scaling
import AccessDecision.Proofs.Json.Numeral
import AccessDecision.Proofs.Json.NumberText

/-
  Which numbers are in range

  The significand of a number holds its first digits, at least 60 bits of them if any
  are left out, and the double is made of it by three roundings. So whether a number is
  refused can differ from what its size says only within four units of the last place
  of the greatest doubles, which end below `2 ^ 53 * topUnit`. The power of ten is
  counted in 31 bits, so this is about texts that are not longer than that allows.

  What is proved:
    1. `near_size` — the number that is rounded is near the number that is written.
    2. `number_of_size_le` and `number_of_le_size` — a number is read if it is four units
       below `2 ^ 1024`, and out of range if it is four units above.
-/

namespace AccessDecision.Json

open Decimal.Binary64 (topUnit topUnit_pos ofDecimal cast_greatest greatest_lt_powTen
  significand_lt_topUnit isSome_ofDecimal ofDecimal_eq_none)
open Text (Digits valueOf valueOf_append valueOf_lt)

/-! ## Sizes -/

/-- What digits behind a point come to. -/
def places (ds : List Char) : ℚ := valueOf ds / 10 ^ ds.length

/-- The power of ten of an exponent that may not be written. -/
def powerOf : Option Exponent → Int
  | none => 0
  | some e => e.value

namespace Numeral

/-- The size of a number as it is written. -/
def size (n : Numeral) : ℚ := (valueOf n.whole + places n.fraction) * 10 ^ powerOf n.exponent

/-- The size of the number that is rounded. -/
def heldSize (n : Numeral) : ℚ := n.significand * 10 ^ (n.scale + powerOf n.exponent)

end Numeral

/-- Where the exponent outweighs the places behind the point, the size is a whole
number. -/
theorem Numeral.size_eq_cast {n : Numeral} {k : Nat}
    (h : powerOf n.exponent = n.fraction.length + k) :
    n.size = (valueOf (n.whole ++ n.fraction) * 10 ^ k : Nat) := by
  have hten : (10 : ℚ) ≠ 0 := by norm_num
  rw [size, h, zpow_add₀ hten, zpow_natCast, zpow_natCast, places, valueOf_append]
  push_cast
  field_simp

/-- Two sizes differ by one part in `2 ^ 60` at most. -/
def Near (a b : ℚ) : Prop := a ≤ b * (1 + 1 / 2 ^ 60) ∧ b ≤ a * (1 + 1 / 2 ^ 60)

theorem Near.refl {a : ℚ} (ha : 0 ≤ a) : Near a a := by
  constructor <;> linarith

theorem Near.mul_right {a b c : ℚ} (h : Near a b) (hc : 0 ≤ c) : Near (a * c) (b * c) := by
  constructor
  · rw [mul_right_comm]
    exact mul_le_mul_of_nonneg_right h.1 hc
  · rw [mul_right_comm]
    exact mul_le_mul_of_nonneg_right h.2 hc

/-- Sizes are near if they lie between the same two multiples of a unit that are far
enough up. -/
theorem near_of_between {s : Nat} {unit a b : ℚ} (hs : 2 ^ 60 ≤ s) (hunit : 0 < unit)
    (ha : s * unit ≤ a ∧ a ≤ (s + 1) * unit) (hb : s * unit ≤ b ∧ b ≤ (s + 1) * unit) :
    Near a b := by
  have hs' : (2 : ℚ) ^ 60 ≤ s := by exact_mod_cast hs
  have hstep : (s + 1) * unit ≤ s * unit * (1 + 1 / 2 ^ 60) := by
    have hone : unit ≤ s * unit * (1 / 2 ^ 60) := by
      have hscaled := mul_le_mul_of_nonneg_right hs' hunit.le
      linarith
    linarith
  constructor
  · exact ha.2.trans (hstep.trans (mul_le_mul_of_nonneg_right hb.1 (by norm_num)))
  · exact hb.2.trans (hstep.trans (mul_le_mul_of_nonneg_right ha.1 (by norm_num)))

/-! ## What the significand leaves out -/

/-- Where a digit is left out, the significand has 60 bits at least. -/
theorem addDigits_full {ds : List Char} (hds : Digits ds) (significand count : Nat)
    (h : (addDigits significand count ds).2.2 ≠ []) :
    2 ^ 60 ≤ (addDigits significand count ds).1 := by
  induction ds generalizing significand count with
  | nil => exact absurd rfl h
  | cons c ds ih =>
    obtain ⟨hc, hds⟩ := List.forall_mem_cons.mp hds
    rw [addDigits] at h ⊢
    split at h
    · rename_i hfits
      rw [if_pos hfits]
      exact ih hds _ _ h
    · rename_i hfits
      rw [if_neg hfits]
      have hgreat : Number.maxUnsigned < significand * 10 + digitValue c := by
        rw [hc, Bool.true_and, decide_eq_true_iff] at hfits
        omega
      have hdigit : digitValue c < 10 := Text.digit_lt_ten hc
      have hmax : Number.maxUnsigned = 2 ^ 64 - 1 := rfl
      show 2 ^ 60 ≤ significand
      omega

theorem places_nonneg (ds : List Char) : 0 ≤ places ds := by
  unfold places
  positivity

theorem places_le_one {ds : List Char} (hds : Digits ds) : places ds ≤ 1 := by
  have hlt : (valueOf ds : ℚ) < 10 ^ ds.length := by exact_mod_cast valueOf_lt hds
  exact (div_le_one (by positivity)).mpr hlt.le

theorem places_append (front back : List Char) :
    places (front ++ back) = places front + places back / 10 ^ front.length := by
  rw [places, places, places, valueOf_append, List.length_append, pow_add]
  push_cast
  field_simp

theorem ten_zpow_pos (e : Int) : (0 : ℚ) < 10 ^ e := zpow_pos (by norm_num) e

section
variable {n : Numeral}

/-- The digits that are written and those that are held come to nearly the same, before
the exponent. -/
theorem near_digits (hwhole : Digits n.whole) (hfraction : Digits n.fraction) :
    Near (valueOf n.whole + places n.fraction) (n.significand * 10 ^ n.scale) := by
  obtain ⟨front, hfront, hheld, -⟩ := addDigits_split 0 0 n.whole
  obtain ⟨taken, htaken, hsignificand, hcount⟩ := addDigits_split n.held.1 0 n.fraction
  have hdigits : Digits taken := fun c hc => hfraction c (htaken ▸ List.mem_append_left _ hc)
  have hwholevalue : (valueOf n.whole : ℚ) =
      n.held.1 * 10 ^ n.held.2.2.length + valueOf n.held.2.2 := by
    have hsplit := valueOf_append front n.held.2.2
    rw [show front ++ n.held.2.2 = n.whole from hfront.symm] at hsplit
    rw [hsplit, show n.held.1 = valueOf front by rw [Numeral.held, hheld]; simp]
    push_cast
    rfl
  have hsignificand' : (n.significand : ℚ) = n.held.1 * 10 ^ taken.length + valueOf taken := by
    exact_mod_cast hsignificand
  have hkept : (n.significand : ℚ) * 10 ^ n.scale =
      (n.held.1 + places taken) * 10 ^ n.held.2.2.length := by
    have hscale : n.scale = n.held.2.2.length - (taken.length : Int) := by
      rw [Numeral.scale, hcount, Nat.zero_add]
    rw [hscale, zpow_sub₀ (by norm_num), zpow_natCast, zpow_natCast, hsignificand', places]
    field_simp
  rw [hkept, hwholevalue]
  by_cases hwholeheld : n.held.2.2 = []
  · have hplain : ((n.held.1 : ℚ) * 10 ^ n.held.2.2.length + valueOf n.held.2.2) = n.held.1 := by
      simp [hwholeheld, valueOf]
    rw [hplain, hwholeheld, List.length_nil, pow_zero, mul_one]
    by_cases hallheld : (addDigits n.held.1 0 n.fraction).2.2 = []
    · -- Everything is held.
      rw [hallheld, List.append_nil] at htaken
      rw [htaken]
      exact Near.refl (add_nonneg (Nat.cast_nonneg _) (places_nonneg _))
    · -- Digits of the fraction are left out.
      have hfull : 2 ^ 60 ≤ n.significand := addDigits_full hfraction n.held.1 0 hallheld
      have hleft : Digits (addDigits n.held.1 0 n.fraction).2.2 := digits_left hfraction _ 0
      have hunit : (0 : ℚ) < 1 / 10 ^ taken.length := by positivity
      have hbase : n.significand * (1 / 10 ^ taken.length) = n.held.1 + places taken := by
        rw [hsignificand', places]
        field_simp
      have hrest : places n.fraction = places taken +
          places (addDigits n.held.1 0 n.fraction).2.2 * (1 / 10 ^ taken.length) := by
        rw [mul_one_div, ← places_append, ← htaken]
      have hlow := mul_nonneg (places_nonneg (addDigits n.held.1 0 n.fraction).2.2) hunit.le
      have hhigh := mul_le_mul_of_nonneg_right (places_le_one hleft) hunit.le
      refine near_of_between hfull hunit ⟨?_, ?_⟩ ⟨?_, ?_⟩ <;> linarith
  · -- Digits in front of the point are left out.
    have hfull : 2 ^ 60 ≤ n.held.1 := addDigits_full hwhole 0 0 hwholeheld
    have hleft : Digits n.held.2.2 := digits_left hwhole 0 0
    have hunit : (0 : ℚ) < 10 ^ n.held.2.2.length := by positivity
    have hless : (valueOf n.held.2.2 : ℚ) + 1 ≤ 10 ^ n.held.2.2.length := by
      exact_mod_cast valueOf_lt hleft
    have hnat : (0 : ℚ) ≤ valueOf n.held.2.2 := Nat.cast_nonneg _
    have hone := places_le_one hfraction
    have hnonneg := places_nonneg n.fraction
    refine near_of_between hfull hunit ⟨by linarith, by linarith⟩ ⟨?_, ?_⟩
    · exact mul_le_mul_of_nonneg_right (by linarith [places_nonneg taken]) hunit.le
    · exact mul_le_mul_of_nonneg_right (by linarith [places_le_one hdigits]) hunit.le

/-- The number that is rounded is near the number that is written. -/
theorem near_size (hwhole : Digits n.whole) (hfraction : Digits n.fraction) :
    Near n.size n.heldSize := by
  rw [Numeral.size, Numeral.heldSize, zpow_add₀ (by norm_num), ← mul_assoc]
  exact (near_digits hwhole hfraction).mul_right (ten_zpow_pos _).le

/-! ## Scaling by a written exponent -/

theorem significand_lt : n.significand < 2 ^ 64 := by
  have hmax : Number.maxUnsigned = 2 ^ 64 - 1 := rfl
  have hheld : n.held.1 ≤ Number.maxUnsigned := addDigits_le (Nat.zero_le _)
  have hle : n.significand ≤ Number.maxUnsigned := addDigits_le hheld
  omega

/-- The text bounds the power of ten that its digits stand for. -/
theorem scale_bounds : -(n.fraction.length : Int) ≤ n.scale ∧ n.scale ≤ n.whole.length := by
  obtain ⟨front, hfront, -, -⟩ := addDigits_split 0 0 n.whole
  obtain ⟨taken, htaken, -, hcount⟩ := addDigits_split n.held.1 0 n.fraction
  have hfrontlength : n.whole.length = front.length + n.held.2.2.length := by
    rw [← List.length_append, show front ++ n.held.2.2 = n.whole from hfront.symm]
  have htakenlength := congrArg List.length htaken
  rw [List.length_append] at htakenlength
  rw [Numeral.scale, hcount]
  omega

end

section
variable {significand : Nat} {scale : Int} {e : Option Exponent}

/-- Up to three units below `2 ^ 1024` there is a double, whatever the exponent. -/
theorem isSome_scaled? (hsignificand : significand < 2 ^ 64) (hscale : -2 ^ 30 ≤ scale)
    (h : significand * 10 ^ (scale + powerOf e) ≤ (2 ^ 53 - 3) * topUnit) :
    (scaled? significand scale e).isSome := by
  cases e with
  | none =>
    rw [powerOf, add_zero] at h
    exact isSome_ofDecimal hsignificand h
  | some e =>
    rw [scaled?]
    split
    · exact isSome_ofDecimal hsignificand h
    · rename_i hgreat
      rw [if_neg]
      · rfl
      · -- So great an exponent puts any number but zero out of range.
        rintro ⟨hup, hne⟩
        have hpower : 309 ≤ scale + powerOf (some e) := by
          have hmax : maxExponent = 2 ^ 31 - 1 := rfl
          rw [powerOf, Exponent.value, if_pos hup]
          omega
        have hone : (1 : ℚ) ≤ significand := by exact_mod_cast Nat.pos_of_ne_zero hne
        have hgreat := greatest_lt_powTen hpower
        have hproduct := le_mul_of_one_le_left (ten_zpow_pos (scale + powerOf (some e))).le hone
        rw [cast_greatest] at hgreat
        linarith [topUnit_pos]

/-- From three units above it there is none. -/
theorem scaled?_eq_none (hsignificand : significand < 2 ^ 64) (hscale : scale ≤ 2 ^ 30)
    (h : (2 ^ 53 + 3) * topUnit ≤ significand * 10 ^ (scale + powerOf e)) :
    scaled? significand scale e = none := by
  cases e with
  | none =>
    rw [powerOf, add_zero] at h
    exact ofDecimal_eq_none hsignificand h
  | some e =>
    rw [scaled?]
    split
    · exact ofDecimal_eq_none hsignificand h
    · rename_i hgreat
      rw [if_pos]
      -- Zero does not get there, and neither does a number whose exponent counts down.
      have hlimit : topUnit ≤ (2 ^ 53 + 3) * topUnit := by linarith [topUnit_pos]
      constructor
      · by_contra hdown
        have hpower : scale + powerOf (some e) ≤ 0 := by
          have hmax : maxExponent = 2 ^ 31 - 1 := rfl
          rw [powerOf, Exponent.value, if_neg hdown]
          omega
        exact absurd (hlimit.trans h) (not_le.mpr (significand_lt_topUnit hsignificand hpower))
      · rintro rfl
        rw [Nat.cast_zero, zero_mul] at h
        linarith [topUnit_pos]

end

/-! ## Numbers in range and out of it -/

section
variable {n : Numeral} {t : List Char}

theorem length_digits_le (h : NumeralText n t) :
    n.whole.length + n.fraction.length ≤ t.length := by
  obtain ⟨body, ⟨_, tf, te, hf, _, rfl⟩, rfl⟩ := h
  have hlength : n.fraction.length ≤ tf.length := by
    generalize n.fraction = f at hf
    cases hf with
    | none => exact Nat.le_refl _
    | point _ _ => exact Nat.le_succ _
  simp only [List.length_append]
  omega

theorem NumeralText.digits (h : NumeralText n t) : Digits n.whole ∧ Digits n.fraction := by
  obtain ⟨body, ⟨hwhole, tf, te, hf, _, _⟩, _⟩ := h
  refine ⟨hwhole.2.1, ?_⟩
  generalize n.fraction = f at hf
  cases hf with
  | none => exact fun _ hc => nomatch hc
  | point _ hds => exact hds

/-- A number that is written without fraction and exponent, and held, is taken. -/
theorem wholeNumber_ok (negative : Bool) {significand : Nat} (h : significand < 2 ^ 64) :
    ∃ x, wholeNumber negative significand = .ok x := by
  have hdouble : (ofDecimal significand 0).isSome := by
    refine isSome_ofDecimal h ?_
    have hlt := significand_lt_topUnit h (le_refl 0)
    linarith [topUnit_pos]
  obtain ⟨size, hsize⟩ := Option.isSome_iff_exists.mp hdouble
  cases negative with
  | false => exact ⟨_, rfl⟩
  | true =>
    rw [wholeNumber, if_pos rfl]
    split
    · rw [toDouble, hsize]
      exact ⟨_, rfl⟩
    · exact ⟨_, rfl⟩

theorem size_of_whole (h : n.Whole) : n.size = n.held.1 := by
  obtain ⟨hheld, hfraction, hexponent⟩ := h
  obtain ⟨front, hfront, hvalue, -⟩ := addDigits_split 0 0 n.whole
  rw [show (addDigits 0 0 n.whole).2.2 = [] from hheld, List.append_nil] at hfront
  have hwhole : n.held.1 = valueOf n.whole := by
    rw [Numeral.held, hvalue, hfront]
    simp
  rw [Numeral.size, hfraction, Option.isNone_iff_eq_none.mp hexponent, hwhole]
  simp [places, valueOf, powerOf]

/-- A number that is four units of the last place below `2 ^ 1024` is read. -/
theorem number_of_size_le (h : NumeralText n t) (hlength : t.length ≤ 2 ^ 30)
    (hsize : n.size ≤ (2 ^ 53 - 4) * topUnit) : ∃ x, n.number = .ok x := by
  rw [Numeral.number]
  split
  · exact wholeNumber_ok n.negative (lt_of_le_of_lt (addDigits_le (Nat.zero_le _)) (by decide))
  · obtain ⟨hwhole, hfraction⟩ := h.digits
    have hnear := (near_size hwhole hfraction).2
    have hle : n.heldSize ≤ (2 ^ 53 - 3) * topUnit := by linarith [topUnit_pos]
    have hscale : -2 ^ 30 ≤ n.scale := by
      have hbound := length_digits_le h
      have hlow := (scale_bounds (n := n)).1
      omega
    obtain ⟨size, hsome⟩ := Option.isSome_iff_exists.mp
      (isSome_scaled? significand_lt hscale hle)
    rw [hsome]
    exact ⟨_, rfl⟩

/-- A number that is four units above `2 ^ 1024` is out of range. -/
theorem number_of_le_size (h : NumeralText n t) (hlength : t.length ≤ 2 ^ 30)
    (hsize : (2 ^ 53 + 4) * topUnit ≤ n.size) : n.number = .error .numberOutOfRange := by
  rw [Numeral.number]
  split
  · rename_i hw
    have hheld : n.held.1 < 2 ^ 64 := lt_of_le_of_lt (addDigits_le (Nat.zero_le _)) (by decide)
    have hlt := significand_lt_topUnit hheld (le_refl 0)
    rw [zpow_zero, mul_one, ← size_of_whole hw] at hlt
    linarith [topUnit_pos]
  · obtain ⟨hwhole, hfraction⟩ := h.digits
    have hnear := (near_size hwhole hfraction).1
    have hle : (2 ^ 53 + 3) * topUnit ≤ n.heldSize := by
      by_contra hlt
      have hfactor : (0 : ℚ) < 1 + 1 / 2 ^ 60 := by norm_num
      have hscaled := mul_lt_mul_of_pos_right (not_le.mp hlt) hfactor
      linarith [topUnit_pos]
    have hscale : n.scale ≤ 2 ^ 30 := by
      have hbound := length_digits_le h
      have hhigh := (scale_bounds (n := n)).2
      omega
    rw [scaled?_eq_none significand_lt hscale hle]
    rfl

end

end AccessDecision.Json
