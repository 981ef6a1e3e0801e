import AccessDecision.Json.Scalar
import AccessDecision.Proofs.Except
import AccessDecision.Proofs.Text.Split
import Mathlib.Algebra.Group.Int.Defs

/-
  Texts of numbers

  A number is written with digits, at most one point, an exponent and signs. The text
  of a double always shows that it is one, by a point or an exponent. Nothing here
  depends on which digits a double is written with.

  What is proved:
    1. `mem_text` and `count_point_text` — which characters the text of a number has,
       and that it has at most one point.
    2. `mark_mem_text_double` — the text of a double has a point or the letter of an
       exponent.
    3. `readNumber_readable` and `readScalar_readable` — integers that are read have
       64 bits, whatever the text.
-/

namespace AccessDecision

/-! ## Digits of doubles -/

namespace Decimal.Binary64

theorem isDigit_numeralOf (k : Nat) (e : Int) : ∀ c ∈ (numeralOf k e).digits, c.isDigit = true := by
  intro c hc
  have hdropped : c ∈ (Nat.toDigits 10 k).reverse.dropWhile (· == '0') := List.mem_reverse.mp hc
  have hdigits : c ∈ Nat.toDigits 10 k :=
    List.mem_reverse.mp ((List.dropWhile_sublist _).subset hdropped)
  exact (Text.writesNat_toDigits k).isDigit.2 c hdigits

theorem isDigit_nearestOnGrid {iv : Interval} {e : Int} {d : Numeral}
    (h : nearestOnGrid iv e = some d) : ∀ c ∈ d.digits, c.isDigit = true := by
  have hchosen : ∀ {below above : Bool} {k k' : Nat},
      (if below then some (numeralOf k e) else if above then some (numeralOf k' e) else none) =
        some d → ∃ k, numeralOf k e = d := by
    intro below above k k' hgrid
    cases below <;> cases above
    · cases hgrid
    · exact ⟨k', Option.some.inj hgrid⟩
    · exact ⟨k, Option.some.inj hgrid⟩
    · exact ⟨k, Option.some.inj hgrid⟩
  have hnumeral : ∃ k, numeralOf k e = d := by
    unfold nearestOnGrid at h
    split at h
    exact hchosen h
  obtain ⟨k, rfl⟩ := hnumeral
  exact isDigit_numeralOf k e

theorem isDigit_firstGrid (iv : Interval) (power : Int) (fuel n : Nat) :
    ∀ c ∈ (firstGrid iv power fuel n).digits, c.isDigit = true := by
  induction fuel generalizing n with
  | zero =>
    intro c hc
    rw [List.mem_singleton.mp hc]
    rfl
  | succ fuel ih =>
    rw [firstGrid]
    split
    · rename_i hgrid
      exact isDigit_nearestOnGrid hgrid
    · exact ih (n + 1)

/-- A double is written with decimal digits. -/
theorem isDigit_shortest (x : Binary64) : ∀ c ∈ x.shortest.digits, c.isDigit = true := by
  unfold shortest
  split
  · intro c hc
    rw [List.mem_singleton.mp hc]
    rfl
  · exact isDigit_firstGrid x.interval _ 17 1

end Decimal.Binary64

namespace Json

/-! ## Characters of numbers -/

/-- A character that occurs in the texts of numbers. -/
def NumberChar (c : Char) : Prop := c.isDigit = true ∨ c = '.' ∨ c = 'e' ∨ c = '-' ∨ c = '+'

instance (c : Char) : Decidable (NumberChar c) :=
  inferInstanceAs (Decidable (c.isDigit = true ∨ c = '.' ∨ c = 'e' ∨ c = '-' ∨ c = '+'))

theorem isDigit_toDigits (n : Nat) : ∀ c ∈ Nat.toDigits 10 n, c.isDigit = true :=
  (Text.writesNat_toDigits n).isDigit.2

theorem count_point_of_digits {cs : List Char} (h : ∀ c ∈ cs, c.isDigit = true) :
    cs.count '.' = 0 := by
  rw [List.count_eq_zero]
  intro hpoint
  exact absurd (h '.' hpoint) (by decide)

/-- What a decimal number is written as in the format of doubles. -/
structure DoubleText (text : List Char) : Prop where
  chars : ∀ c ∈ text, NumberChar c
  point : text.count '.' ≤ 1
  mark : '.' ∈ text ∨ 'e' ∈ text

/-- Digits, a point and digits. -/
theorem doubleText_positional {whole fraction : List Char}
    (hwhole : ∀ c ∈ whole, c.isDigit = true) (hfraction : ∀ c ∈ fraction, c.isDigit = true) :
    DoubleText (whole ++ '.' :: fraction) := by
  refine ⟨?_, ?_, .inl (by simp)⟩
  · intro c hc
    rcases List.mem_append.mp hc with hc | hc
    · exact .inl (hwhole c hc)
    · rcases List.mem_cons.mp hc with rfl | hc
      · exact .inr (.inl rfl)
      · exact .inl (hfraction c hc)
  · have hcount : (whole ++ '.' :: fraction).count '.' = 1 := by
      rw [List.count_append, List.count_cons_self, count_point_of_digits hwhole,
        count_point_of_digits hfraction]
    exact Nat.le_of_eq hcount

/-- Digits with at most one point, the letter of the exponent and the exponent. -/
theorem doubleText_scientific {front : List Char}
    (hfront : ∀ c ∈ front, c.isDigit = true ∨ c = '.') (hpoint : front.count '.' ≤ 1)
    (power : Int) :
    DoubleText (front ++ 'e' :: match power with
      | .ofNat n => doubleFormat.plus ++ Nat.toDigits 10 n
      | .negSucc n => '-' :: Nat.toDigits 10 (n + 1)) := by
  have hsigned : ∀ {sign : Char} (n : Nat), sign = '+' ∨ sign = '-' →
      DoubleText (front ++ 'e' :: sign :: Nat.toDigits 10 n) := by
    intro sign n hsign
    have hdigits := isDigit_toDigits n
    refine ⟨?_, ?_, .inr (by simp)⟩
    · intro c hc
      simp only [List.mem_append, List.mem_cons] at hc
      rcases hc with hc | rfl | rfl | hc
      · rcases hfront c hc with hc | hc
        · exact .inl hc
        · exact .inr (.inl hc)
      · exact .inr (.inr (.inl rfl))
      · exact .inr (.inr (.inr hsign.symm))
      · exact .inl (hdigits c hc)
    · -- Any point stands in front of the exponent.
      have hne : sign ≠ '.' := by
        rcases hsign with rfl | rfl <;> decide
      rw [List.count_append, List.count_cons_of_ne (by decide), List.count_cons_of_ne hne,
        count_point_of_digits hdigits]
      exact hpoint
  cases power with
  | ofNat n => exact hsigned n (.inl rfl)
  | negSucc n => exact hsigned (n + 1) (.inr rfl)

theorem doubleText_write {d : Decimal.Numeral} (h : ∀ c ∈ d.digits, c.isDigit = true) :
    DoubleText (doubleFormat.write d) := by
  have hzeros : ∀ n, ∀ c ∈ List.replicate n '0', c.isDigit = true := by
    intro n c hc
    rw [List.eq_of_mem_replicate hc]
    rfl
  unfold DoubleFormat.write
  split
  · split
    · -- The digits before the point are filled up with zeros.
      rename_i n _
      have hwhole : ∀ c ∈ (d.digits.take (n + 1)).rightpad (n + 1) '0', c.isDigit = true := by
        intro c hc
        rcases List.mem_append.mp hc with hc | hc
        · exact h c (List.mem_of_mem_take hc)
        · exact hzeros _ c hc
      dsimp only
      split
      · exact doubleText_positional hwhole (hzeros 1)
      · rename_i fraction _ _
        exact doubleText_positional hwhole fun c hc => h c (List.mem_of_mem_drop hc)
    · rename_i n _
      show DoubleText (List.replicate 1 '0' ++ '.' :: (List.replicate n '0' ++ d.digits))
      apply doubleText_positional (hzeros 1)
      intro c hc
      rcases List.mem_append.mp hc with hc | hc
      · exact hzeros n c hc
      · exact h c hc
  · dsimp only
    split
    · rename_i c hdigits
      rw [hdigits, List.forall_mem_singleton] at h
      refine doubleText_scientific ?_ List.count_le_length d.power
      intro c' hc'
      exact .inl (List.mem_singleton.mp hc' ▸ h)
    · rename_i c rest _ hdigits
      rw [hdigits, List.forall_mem_cons] at h
      refine doubleText_scientific ?_ ?_ d.power
      · intro c' hc'
        simp only [List.mem_cons] at hc'
        rcases hc' with rfl | rfl | hc'
        · exact .inl h.1
        · exact .inr rfl
        · exact .inl (h.2 c' hc')
      · have hne : c ≠ '.' := by
          rintro rfl
          exact absurd h.1 (by decide)
        have hcount : (c :: '.' :: rest).count '.' = 1 := by
          rw [List.count_cons_of_ne hne, List.count_cons_self, count_point_of_digits h.2]
        exact Nat.le_of_eq hcount
    · have hnone : ∀ c ∈ ([] : List Char), c.isDigit = true ∨ c = '.' := nofun
      exact doubleText_scientific hnone (Nat.zero_le 1) d.power

/-- A double is written as a double, its sign included. -/
theorem doubleText_double (negative : Bool) (size : Decimal.Binary64) :
    DoubleText (Number.double negative size).text := by
  have hsize := doubleText_write size.isDigit_shortest
  cases negative with
  | false => exact hsize
  | true =>
    refine ⟨?_, ?_, ?_⟩
    · exact List.forall_mem_cons.mpr ⟨.inr (.inr (.inr (.inl rfl))), hsize.chars⟩
    · have hsign : ('-' :: doubleFormat.write size.shortest).count '.' =
          (doubleFormat.write size.shortest).count '.' := List.count_cons_of_ne (by decide)
      exact Nat.le_trans (Nat.le_of_eq hsign) hsize.point
    · exact hsize.mark.imp (List.mem_cons_of_mem _) (List.mem_cons_of_mem _)

/-! ## Texts of integers -/

theorem mem_integerText {n : Int} {c : Char} (h : c ∈ Number.integerText n) :
    c.isDigit = true ∨ c = '-' := by
  cases n with
  | ofNat k => exact .inl (isDigit_toDigits k c h)
  | negSucc k =>
    rcases List.mem_cons.mp h with rfl | h
    · exact .inr rfl
    · exact .inl (isDigit_toDigits (k + 1) c h)

theorem mem_text {n : Number} : ∀ c ∈ n.text, NumberChar c := by
  cases n with
  | integer n =>
    intro c hc
    rcases mem_integerText hc with hc | hc
    · exact .inl hc
    · exact .inr (.inr (.inr (.inl hc)))
  | double negative size => exact (doubleText_double negative size).chars

theorem count_point_text (n : Number) : n.text.count '.' ≤ 1 := by
  cases n with
  | integer n =>
    have hnone : '.' ∉ Number.integerText n := by
      intro h
      rcases mem_integerText h with hdigit | hsign
      · exact absurd hdigit (by decide)
      · cases hsign
    rw [Number.text, List.count_eq_zero.mpr hnone]
    exact Nat.zero_le 1
  | double negative size => exact (doubleText_double negative size).point

/-- A double shows by a point or by an exponent that it is none of the integers. -/
theorem mark_mem_text_double (negative : Bool) (size : Decimal.Binary64) :
    '.' ∈ (Number.double negative size).text ∨ 'e' ∈ (Number.double negative size).text :=
  (doubleText_double negative size).mark

/-! ## Numbers that are read -/

/-- An integer of 64 bits, with a sign or without, or a double. -/
def Number.Readable : Number → Prop
  | .integer n => -2 ^ 63 ≤ n ∧ n < 2 ^ 64
  | .double _ _ => True

/-- A scalar whose number, if it is one, can be read. -/
def Scalar.Readable : Scalar → Prop
  | .number n => n.Readable
  | .boolean _ | .string _ => True

theorem toDouble_readable {negative : Bool} {significand : Nat} {exponent : Int} {n : Number}
    (h : toDouble negative significand exponent = .ok n) : n.Readable := by
  unfold toDouble at h
  split at h
  · cases h
    trivial
  · cases h

theorem readExponent_readable {negative : Bool} {significand : Nat} {start : Int}
    {cs rest : List Char} {n : Number}
    (h : readExponent negative significand start cs = .ok (n, rest)) : n.Readable := by
  unfold readExponent at h
  split at h
  split at h
  · cases h
  · obtain ⟨hdigit, h⟩ := Except.ite_else_error_eq_ok.mp h
    obtain ⟨⟨value, rest'⟩, _, h⟩ := Except.bind_eq_ok.mp h
    cases value with
    | none =>
      cases h
      trivial
    | some v =>
      obtain ⟨x, hx, h⟩ := Except.bind_eq_ok.mp h
      cases h
      exact toDouble_readable hx

theorem readScale_readable {negative : Bool} {significand : Nat} {exponent : Int}
    {cs rest : List Char} {n : Number}
    (h : readScale negative significand exponent cs = .ok (n, rest)) : n.Readable := by
  unfold readScale at h
  split at h
  · exact readExponent_readable h
  · exact readExponent_readable h
  · obtain ⟨x, hx, h⟩ := Except.bind_eq_ok.mp h
    cases h
    exact toDouble_readable hx

theorem readFraction_readable {negative : Bool} {significand : Nat} {exponent : Int}
    {cs rest : List Char} {n : Number}
    (h : readFraction negative significand exponent cs = .ok (n, rest)) : n.Readable := by
  unfold readFraction at h
  split at h
  · split at h
    · exact readScale_readable h
    · exact readScale_readable (Except.ite_error_eq_ok.mp h).2
  · exact readScale_readable (Except.ite_error_eq_ok.mp h).2

/-- A significand is not taken further than it fits 64 bits. -/
theorem addDigits_le {significand count : Nat} {cs : List Char}
    (h : significand ≤ Number.maxUnsigned) :
    (addDigits significand count cs).1 ≤ Number.maxUnsigned := by
  induction cs generalizing significand count with
  | nil => exact h
  | cons c cs ih =>
    rw [addDigits]
    split
    · rename_i hfits
      rw [Bool.and_eq_true, decide_eq_true_iff] at hfits
      exact ih hfits.2
    · exact h

theorem wholeNumber_readable {negative : Bool} {significand : Nat} {n : Number}
    (hfits : significand ≤ Number.maxUnsigned) (h : wholeNumber negative significand = .ok n) :
    n.Readable := by
  have hunsigned : Number.maxUnsigned = 2 ^ 64 - 1 := rfl
  have hsigned : Number.maxSigned = 2 ^ 63 - 1 := rfl
  unfold wholeNumber at h
  split at h
  · split at h
    · exact toDouble_readable h
    · cases h
      simp only [Number.Readable]
      omega
  · cases h
    simp only [Number.Readable]
    omega

theorem readAfterDigits_readable {negative : Bool} {significand : Nat} {cs rest : List Char}
    {n : Number} (hfits : significand ≤ Number.maxUnsigned)
    (h : readAfterDigits negative significand cs = .ok (n, rest)) : n.Readable := by
  unfold readAfterDigits at h
  split at h
  · exact readFraction_readable h
  · exact readExponent_readable h
  · exact readExponent_readable h
  · obtain ⟨x, hx, h⟩ := Except.bind_eq_ok.mp h
    cases h
    exact wholeNumber_readable hfits hx

/-- An integer that is read has 64 bits. -/
theorem readNumber_readable {negative : Bool} {cs rest : List Char} {n : Number}
    (h : readNumber negative cs = .ok (n, rest)) : n.Readable := by
  unfold readNumber at h
  split at h
  · cases h
  · exact readAfterDigits_readable (Nat.zero_le _) (Except.ite_error_eq_ok.mp h).2
  · rename_i c tail _
    obtain ⟨_, h⟩ := Except.ite_else_error_eq_ok.mp h
    have hfits : (addDigits 0 0 (c :: tail)).1 ≤ Number.maxUnsigned := addDigits_le (Nat.zero_le _)
    split at h
    rename_i significand _ _ hadd
    rw [hadd] at hfits
    split at h
    · -- More digits than 64 bits hold make a double.
      dsimp only at h
      split at h
      · exact readFraction_readable h
      · exact readScale_readable h
    · exact readAfterDigits_readable hfits h

theorem readAnyWith_readable {inner : Option (Reader (Option Scalar))} {cs rest : List Char}
    {x : Scalar} (h : readAnyWith inner cs = .ok (some x, rest)) : x.Readable := by
  have hnumber : ∀ {negative : Bool} {cs : List Char},
      (readNumber negative cs).map (fun r => (some (Scalar.number r.1), r.2)) =
        .ok (some x, rest) → x.Readable := by
    intro negative cs hread
    obtain ⟨⟨n, rest'⟩, hn, heq⟩ := Except.map_eq_ok.mp hread
    cases heq
    exact readNumber_readable hn
  -- Only a number can be out of range, and lists and objects are no scalars.
  unfold readAnyWith at h
  split at h
  · cases h
  · obtain ⟨_, _, heq⟩ := Except.map_eq_ok.mp h
    cases heq
  · obtain ⟨_, _, heq⟩ := Except.map_eq_ok.mp h
    cases heq
    trivial
  · obtain ⟨_, _, heq⟩ := Except.map_eq_ok.mp h
    cases heq
    trivial
  · obtain ⟨_, _, heq⟩ := Except.map_eq_ok.mp h
    cases heq
    trivial
  · exact hnumber h
  · split at h
    · cases h
    · obtain ⟨_, _, heq⟩ := Except.map_eq_ok.mp h
      cases heq
  · split at h
    · cases h
    · obtain ⟨_, _, heq⟩ := Except.map_eq_ok.mp h
      cases heq
  · exact hnumber (Except.ite_else_error_eq_ok.mp h).2

theorem readScalar_readable {levels : Nat} {cs rest : List Char} {x : Scalar}
    (h : readScalar levels cs = .ok (x, rest)) : x.Readable := by
  unfold readScalar at h
  split at h
  · cases h
  · rename_i hany
    cases h
    cases levels with
    | zero => exact readAnyWith_readable hany
    | succ levels => exact readAnyWith_readable hany
  · cases h

end Json

end AccessDecision
