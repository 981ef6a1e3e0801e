import AccessDecision.Proofs.Condition.Families
import AccessDecision.Proofs.Time.Spelling
import Mathlib.Data.List.Forall2

/-
  Dates are compared as instants

  A date operator sees of a text the instant that it writes, and nothing of the offset
  or the spelling. So a date may be written at any offset, in a request as well as in a
  condition.

  What is proved:
    1. `comparesInstants_congr` — sides that read as the same instants compare alike.
    2. `dates_decide_by_instant` — a text and any spelling of its instant at another
       offset take each other's place in every list of acceptable texts and as the
       value of a request.
-/

namespace AccessDecision.Condition

/-- Something, or what takes the place of `a` if it is `a`. -/
def Replaced {α : Type} (a a' x x' : α) : Prop := x' = x ∨ x = a ∧ x' = a'

section
variable {t t' v v' : String} {x x' : Value} {s s' : Time.Timestamp}

theorem writesInstant_iff (h : Time.Timestamp.ofText? v = some s) {i : Time.Instant} :
    WritesInstant v i ↔ s.instant = i := by
  simp [WritesInstant, h]

/-- Texts of the same instant write the same instants in each other's place. -/
theorem writesInstant_of_replaced (h : Time.Timestamp.ofText? t = some s)
    (h' : Time.Timestamp.ofText? t' = some s') (hsame : s'.instant = s.instant)
    (hv : Replaced t t' v v') (i : Time.Instant) : WritesInstant v i ↔ WritesInstant v' i := by
  rcases hv with rfl | ⟨rfl, rfl⟩
  · exact Iff.rfl
  · rw [writesInstant_iff h, writesInstant_iff h', hsame]

theorem readsInstant_of_replaced (h : Time.Timestamp.ofText? t = some s)
    (h' : Time.Timestamp.ofText? t' = some s') (hsame : s'.instant = s.instant)
    (hx : Replaced (.string t) (.string t') x x') (i : Time.Instant) :
    ReadsInstant x i ↔ ReadsInstant x' i := by
  rcases hx with rfl | ⟨rfl, rfl⟩
  · exact Iff.rfl
  · have hwrites := writesInstant_of_replaced h h' hsame (.inr ⟨rfl, rfl⟩) i
    simp [ReadsInstant, hwrites]

/-- Sides that read as the same instants compare alike. -/
theorem comparesInstants_congr (hx : ∀ i, ReadsInstant x i ↔ ReadsInstant x' i)
    (hv : ∀ i, WritesInstant v i ↔ WritesInstant v' i) (r : OrderRelation) :
    ComparesInstants r x v ↔ ComparesInstants r x' v' := by
  simp only [ComparesInstants, hx, hv]

end

theorem comparator_date (r : OrderRelation) (texts : List String) :
    (Family.date.operator r).comparator texts = .ofDates r texts := by
  cases r <;> rfl

/-- Lists whose texts compare alike, place by place, accept the same values. -/
theorem accepts_ofDates_congr {r : OrderRelation} {x x' : Value} {texts texts' : List String}
    (h : List.Forall₂ (fun v v' => ComparesInstants r x v ↔ ComparesInstants r x' v')
      texts texts') :
    (Comparator.ofDates r texts).accepts x = (Comparator.ofDates r texts').accepts x' := by
  rw [Bool.eq_iff_iff, accepts_ofDates, accepts_ofDates]
  induction h with
  | nil => simp
  | cons hv _ ih => rw [List.exists_mem_cons_iff, List.exists_mem_cons_iff, hv, ih]

end AccessDecision.Condition

namespace AccessDecision

open Condition Time

/-- A text that is read as a timestamp has spellings at every offset of less than a day
where its year has four digits. Each of them is read as the same instant, and it takes
the place of the text, as the value of a request and anywhere among the acceptable
texts, without any date operator telling the difference. -/
theorem dates_decide_by_instant {text : String} {t : Timestamp}
    (ht : Timestamp.ofText? text = some t) {ahead : Int} (hoffset : ahead.natAbs ≤ 23 * 60 + 59)
    (hyear : t.instant.FourDigitYear ahead) :
    (∃ text', Spells t.instant ahead text') ∧
    ∀ text', Spells t.instant ahead text' →
      Timestamp.ofText? text' = some ⟨t.instant, 60 * ahead⟩ ∧
      ∀ r texts texts' x x', List.Forall₂ (Replaced text text') texts texts' →
        Replaced (.string text) (.string text') x x' →
        ((Family.date.operator r).comparator texts).accepts x =
          ((Family.date.operator r).comparator texts').accepts x' := by
  have hregular := Timestamp.regular_of_ofText? ht
  refine ⟨Timestamp.exists_spells hregular (by omega) (by omega) hyear, fun text' hspells => ?_⟩
  have ht' := Timestamp.ofText?_of_spells hspells
  refine ⟨ht', fun r texts texts' x x' htexts hx => ?_⟩
  rw [comparator_date, comparator_date]
  refine accepts_ofDates_congr (htexts.imp fun v v' hv => ?_)
  exact comparesInstants_congr (readsInstant_of_replaced ht ht' rfl hx)
    (writesInstant_of_replaced ht ht' rfl hv) r

/-- The leap second at the end of 2016 falls into the next year five and a half hours
east of Greenwich, and is the same instant there. -/
theorem leap_second_decides :
    let text := "2016-12-31t23:59:60.5z"
    let text' := "2017-01-01T05:29:60.50+05:30"
    let i : Instant := ⟨1483228799, 1500000000⟩
    (Timestamp.ofText? text = some ⟨i, 0⟩ ∧ i.FourDigitYear 330 ∧ Spells i 330 text') ∧
      Timestamp.ofText? text' = some ⟨i, 19800⟩ ∧
      (Operator.dateEquals.comparator ["soon", text']).accepts (.string text) =
        (Operator.dateEquals.comparator ["soon", text]).accepts (.string text) := by
  intro text text' i
  have ht : Timestamp.ofText? text = some ⟨i, 0⟩ := by decide +kernel
  have hdate : Date.afterDays 736695 = ⟨2017, 1, 1⟩ :=
    Date.afterDays_toDays (d := ⟨2017, 1, 1⟩) (by decide)
  have hyear : i.FourDigitYear 330 := ⟨736695, by decide, by rw [hdate]; decide⟩
  have hspells : Spells i 330 text' := by
    refine ⟨736695, 5, 29, 60, 'T', ['.', '5', '0'], ['+', '0', '5', ':', '3', '0'], ?_, ?_,
      .inl rfl, ?_, ?_, ?_⟩
    · exact ⟨by decide, by decide, by decide, by decide, by decide⟩
    · rw [hdate]
      decide
    · have hdigits : Text.WritesNat ['5', '0'] 50 := Text.decimal?_eq_some.mp rfl
      have hnanos : 50 * 10 ^ 9 / 10 ^ ['5', '0'].length = i.nanos % nanosPerSecond := by decide
      exact hnanos ▸ FractionText.digits hdigits
    · exact @OffsetText.ahead 5 30 (by decide) (by decide)
    · rw [hdate]
      decide
  obtain ⟨_, hall⟩ := @dates_decide_by_instant _ _ ht 330 (by decide) hyear
  obtain ⟨ht', hdecide⟩ := hall text' hspells
  refine ⟨⟨ht, hyear, hspells⟩, ht', ?_⟩
  exact (hdecide .equals ["soon", text] ["soon", text'] (.string text) (.string text)
    (.cons (.inl rfl) (.cons (.inr ⟨rfl, rfl⟩) .nil)) (.inl rfl)).symm

end AccessDecision
