import AccessDecision.Proofs.Condition.Evaluation

/-
  How operators of a family belong together

  The operators that compare numbers and those that compare dates are two families,
  each with the six relations of an order. Within a family the relations fit together
  on every list of acceptable texts, whatever the texts and the value of the request
  read as.

  A negated operator is no complement: it asks for one acceptable text that the
  positive operator rejects, and only among the texts that compare with the value. The
  dates are the exception, where a date also differs from what is none.

  What is proved:
    1. `accepts_lessThanEquals`, `accepts_greaterThanEquals` and `one_relation_holds` —
       the laws of an order, in both families.
    2. `accepts_numericNotEquals` and `accepts_dateNotEquals` — what differs is less or
       greater; of dates, exactly one side may also be none.
    3. `accepts_negated` — a negated operator accepts a value if some comparable text,
       taken alone, is rejected by the positive one.
    4. `families_cohere` — all of it, over every value and every list of texts.
-/

namespace AccessDecision.Condition

/-! ## The two families -/

/-- What the operators of a family compare. -/
inductive Family where
  | numeric
  | date
deriving DecidableEq, Repr

namespace Family

/-- The operator of a relation. -/
def operator : Family → OrderRelation → Operator
  | numeric, .equals => .numericEquals
  | numeric, .notEquals => .numericNotEquals
  | numeric, .lessThan => .numericLessThan
  | numeric, .lessThanEquals => .numericLessThanEquals
  | numeric, .greaterThan => .numericGreaterThan
  | numeric, .greaterThanEquals => .numericGreaterThanEquals
  | date, .equals => .dateEquals
  | date, .notEquals => .dateNotEquals
  | date, .lessThan => .dateLessThan
  | date, .lessThanEquals => .dateLessThanEquals
  | date, .greaterThan => .dateGreaterThan
  | date, .greaterThanEquals => .dateGreaterThanEquals

/-- The value of a request reads as what the family compares. -/
def Reads : Family → Value → Prop
  | numeric, x => ∃ n, ReadsInteger x n
  | date, x => ∃ i, ReadsInstant x i

/-- An acceptable text writes what the family compares. -/
def Writes : Family → String → Prop
  | numeric, v => ∃ n, WritesInteger v n
  | date, v => ∃ i, WritesInstant v i

/-- Both sides read as what the family compares, and the relation holds. -/
def Relates : Family → OrderRelation → Value → String → Prop
  | numeric, r, x, v => ∃ m n, ReadsInteger x m ∧ WritesInteger v n ∧ r.Relates m n
  | date, r, x, v =>
    ∃ i j, ReadsInstant x i ∧ WritesInstant v j ∧ r.Relates (instantKey i) (instantKey j)

end Family

namespace Operator

/-- The positive form of the negated operators that go by rejection. Dates are left
out, because they also differ from what is none. -/
def positive? : Operator → Option Operator
  | stringNotEquals => some stringEquals
  | stringNotEqualsIgnoreCase => some stringEqualsIgnoreCase
  | stringNotLike => some stringLike
  | numericNotEquals => some numericEquals
  | notIpAddress => some ipAddress
  | _ => none

/-- An acceptable text can be compared with a value: any two texts can, and all else
if both sides read as what the operator compares. -/
def Comparable : Operator → Value → String → Prop
  | stringEquals, _, _ | stringNotEquals, _, _ | stringEqualsIgnoreCase, _, _
  | stringNotEqualsIgnoreCase, _, _ | stringLike, _, _ | stringNotLike, _, _ => True
  | numericEquals, x, v | numericNotEquals, x, v | numericLessThan, x, v
  | numericLessThanEquals, x, v | numericGreaterThan, x, v | numericGreaterThanEquals, x, v =>
    Family.numeric.Reads x ∧ Family.numeric.Writes v
  | dateEquals, x, v | dateNotEquals, x, v | dateLessThan, x, v | dateLessThanEquals, x, v
  | dateGreaterThan, x, v | dateGreaterThanEquals, x, v =>
    Family.date.Reads x ∧ Family.date.Writes v
  | bool, x, v => (∃ b, ReadsBool x b) ∧ ∃ b, WritesBool v b
  | ipAddress, x, v | notIpAddress, x, v => (∃ a, ReadsAddress x a) ∧ IsAddressRule v

end Operator

/-! ## Both sides read as one thing -/

theorem ReadsInteger.unique {x : Value} {m n : Int} (hm : ReadsInteger x m)
    (hn : ReadsInteger x n) : m = n :=
  Option.some.inj ((asInteger?_eq_some.mpr hm).symm.trans (asInteger?_eq_some.mpr hn))

theorem WritesInteger.unique {v : String} {m n : Int} (hm : WritesInteger v m)
    (hn : WritesInteger v n) : m = n :=
  Option.some.inj ((integerOfText?_eq_some.mpr hm).symm.trans (integerOfText?_eq_some.mpr hn))

theorem WritesInstant.unique {v : String} {i j : Time.Instant} (hi : WritesInstant v i)
    (hj : WritesInstant v j) : i = j := by
  obtain ⟨t, ht, rfl⟩ := hi
  obtain ⟨u, hu, rfl⟩ := hj
  rw [Option.some.inj (ht.symm.trans hu)]

theorem ReadsInstant.unique {x : Value} {i j : Time.Instant} (hi : ReadsInstant x i)
    (hj : ReadsInstant x j) : i = j := by
  obtain ⟨s, rfl, hi⟩ := hi
  obtain ⟨t, ht, hj⟩ := hj
  cases ht
  exact hi.unique hj

theorem ReadsAddress.unique {x : Value} {a b : Network.Address} (ha : ReadsAddress x a)
    (hb : ReadsAddress x b) : a = b :=
  Option.some.inj ((addressOf?_eq_some.mpr ha).symm.trans (addressOf?_eq_some.mpr hb))

section
variable {f : Family} {r : OrderRelation} {x : Value} {v : String}

/-- Where both sides read, they read as one key each of a linear order, so a relation
holds of the keys or does not. -/
theorem Family.relates_of_reads (hx : f.Reads x) (hv : f.Writes v) :
    ∃ a b : Int ×ₗ Nat, ∀ r, f.Relates r x v ↔ r.Relates a b := by
  cases f with
  | numeric =>
    obtain ⟨m, hm⟩ := hx
    obtain ⟨n, hn⟩ := hv
    refine ⟨toLex (m, 0), toLex (n, 0), fun r => ?_⟩
    have hkeys : r.Relates m n ↔ r.Relates (toLex (m, 0) : Int ×ₗ Nat) (toLex (n, 0)) := by
      cases r <;> simp [OrderRelation.Relates, Prod.Lex.toLex_lt_toLex, le_iff_lt_or_eq]
    rw [← hkeys]
    constructor
    · rintro ⟨m', n', hm', hn', h⟩
      rwa [hm.unique hm', hn.unique hn']
    · intro h
      exact ⟨m, n, hm, hn, h⟩
  | date =>
    obtain ⟨i, hi⟩ := hx
    obtain ⟨j, hj⟩ := hv
    refine ⟨instantKey i, instantKey j, fun r => ?_⟩
    constructor
    · rintro ⟨i', j', hi', hj', h⟩
      rwa [hi.unique hi', hj.unique hj']
    · intro h
      exact ⟨i, j, hi, hj, h⟩

theorem Family.Relates.reads (h : f.Relates r x v) : f.Reads x ∧ f.Writes v := by
  cases f with
  | numeric =>
    obtain ⟨m, n, hm, hn, _⟩ := h
    exact ⟨⟨m, hm⟩, n, hn⟩
  | date =>
    obtain ⟨i, j, hi, hj, _⟩ := h
    exact ⟨⟨i, hi⟩, j, hj⟩

/-- A relation that holds exactly if one of two others does, in every linear order, does
so between a value and a text. -/
theorem Family.relates_or {p q : OrderRelation}
    (h : ∀ a b : Int ×ₗ Nat, r.Relates a b ↔ p.Relates a b ∨ q.Relates a b) :
    f.Relates r x v ↔ f.Relates p x v ∨ f.Relates q x v := by
  have hkeys : f.Reads x ∧ f.Writes v → (f.Relates r x v ↔ f.Relates p x v ∨ f.Relates q x v) := by
    rintro ⟨hx, hv⟩
    obtain ⟨a, b, hab⟩ := Family.relates_of_reads hx hv
    rw [hab r, hab p, hab q, h]
  constructor
  · intro hr
    exact (hkeys hr.reads).mp hr
  · rintro (hp | hq)
    · exact (hkeys hp.reads).mpr (.inl hp)
    · exact (hkeys hq.reads).mpr (.inr hq)

/-- Of the dates, exactly one side may be none where they are not to be equal; else the
operator of a family says what its relation says. -/
theorem Family.holds_operator :
    (f.operator r).Holds x v ↔ f.Relates r x v ∨
      (f = .date ∧ r = .notEquals ∧ ¬ (f.Reads x ↔ f.Writes v)) := by
  cases f with
  | numeric =>
    have hrelates : (Family.numeric.operator r).Holds x v ↔ Family.numeric.Relates r x v := by
      cases r <;> exact Iff.rfl
    simp [hrelates]
  | date =>
    have hcompares : (Family.date.operator r).Holds x v ↔ ComparesInstants r x v := by
      cases r <;> exact Iff.rfl
    simp [hcompares, ComparesInstants, Relates, Reads, Writes]

end

/-! ## The laws of an order -/

section
variable {f : Family} {r : OrderRelation} {x : Value} {texts : List String}

theorem accepts_operator (h : f = .numeric ∨ r ≠ .notEquals) :
    ((f.operator r).comparator texts).accepts x = true ↔ ∃ v ∈ texts, f.Relates r x v := by
  rw [accepts_comparator]
  refine exists_congr fun v => and_congr_right fun _ => ?_
  rw [Family.holds_operator, or_iff_left]
  rintro ⟨rfl, hr, _⟩
  rcases h with hf | hr'
  · cases hf
  · exact hr' hr

theorem accepts_or {p q : OrderRelation} (hr : f = .numeric ∨ r ≠ .notEquals)
    (hp : p ≠ .notEquals) (hq : q ≠ .notEquals)
    (h : ∀ a b : Int ×ₗ Nat, r.Relates a b ↔ p.Relates a b ∨ q.Relates a b) :
    ((f.operator r).comparator texts).accepts x = true ↔
      ((f.operator p).comparator texts).accepts x = true ∨
        ((f.operator q).comparator texts).accepts x = true := by
  rw [accepts_operator hr, accepts_operator (.inr hp), accepts_operator (.inr hq)]
  constructor
  · rintro ⟨v, hv, hrel⟩
    exact ((Family.relates_or h).mp hrel).imp (⟨v, hv, ·⟩) (⟨v, hv, ·⟩)
  · rintro (⟨v, hv, hrel⟩ | ⟨v, hv, hrel⟩)
    · exact ⟨v, hv, (Family.relates_or h).mpr (.inl hrel)⟩
    · exact ⟨v, hv, (Family.relates_or h).mpr (.inr hrel)⟩

theorem accepts_lessThanEquals :
    ((f.operator .lessThanEquals).comparator texts).accepts x = true ↔
      ((f.operator .lessThan).comparator texts).accepts x = true ∨
        ((f.operator .equals).comparator texts).accepts x = true :=
  accepts_or (.inr nofun) nofun nofun fun _ _ => le_iff_lt_or_eq

theorem accepts_greaterThanEquals :
    ((f.operator .greaterThanEquals).comparator texts).accepts x = true ↔
      ((f.operator .greaterThan).comparator texts).accepts x = true ∨
        ((f.operator .equals).comparator texts).accepts x = true :=
  accepts_or (.inr nofun) nofun nofun fun _ _ =>
    le_iff_lt_or_eq.trans (or_congr_right eq_comm)

/-- With one acceptable text, both sides read exactly if the value is less, equal or
greater, and then it is only one of the three. -/
theorem one_relation_holds (v : String) :
    (f.Reads x ∧ f.Writes v) ↔ ∃! r, r ∈ [OrderRelation.lessThan, .equals, .greaterThan] ∧
      ((f.operator r).comparator [v]).accepts x = true := by
  have haccepts : ∀ r ∈ [OrderRelation.lessThan, .equals, .greaterThan],
      (((f.operator r).comparator [v]).accepts x = true ↔ f.Relates r x v) := by
    intro r hr
    have hne : r ≠ .notEquals := by
      rintro rfl
      simp at hr
    rw [accepts_operator (.inr hne)]
    simp
  constructor
  · rintro ⟨hx, hv⟩
    obtain ⟨a, b, hab⟩ := Family.relates_of_reads hx hv
    have hthree : ∃! r, r ∈ [OrderRelation.lessThan, .equals, .greaterThan] ∧ r.Relates a b := by
      rcases lt_trichotomy a b with h | h | h
      · refine ⟨.lessThan, ⟨by simp, h⟩, ?_⟩
        rintro r ⟨hr, hrel⟩
        cases r <;> simp_all [OrderRelation.Relates, h.ne, h.not_gt]
      · refine ⟨.equals, ⟨by simp, h⟩, ?_⟩
        rintro r ⟨hr, hrel⟩
        cases r <;> simp_all [OrderRelation.Relates]
      · refine ⟨.greaterThan, ⟨by simp, h⟩, ?_⟩
        rintro r ⟨hr, hrel⟩
        cases r <;> simp_all [OrderRelation.Relates, h.ne', h.not_gt]
    refine (existsUnique_congr fun r => and_congr_right fun hr => ?_).mpr hthree
    rw [haccepts r hr, hab]
  · rintro ⟨r, ⟨hr, hrel⟩, _⟩
    exact ((haccepts r hr).mp hrel).reads

/-! ## What differs -/

theorem accepts_numericNotEquals :
    (Operator.numericNotEquals.comparator texts).accepts x = true ↔
      (Operator.numericLessThan.comparator texts).accepts x = true ∨
        (Operator.numericGreaterThan.comparator texts).accepts x = true :=
  accepts_or (f := .numeric) (r := .notEquals) (p := .lessThan) (q := .greaterThan) (.inl rfl)
    nofun nofun fun _ _ => ne_iff_lt_or_gt

/-- A date differs from a text that is none, and from nothing else but other dates. -/
theorem accepts_dateNotEquals :
    (Operator.dateNotEquals.comparator texts).accepts x = true ↔
      (Operator.dateLessThan.comparator texts).accepts x = true ∨
        (Operator.dateGreaterThan.comparator texts).accepts x = true ∨
          ∃ v ∈ texts, ¬ (Family.date.Reads x ↔ Family.date.Writes v) := by
  have hless : (Operator.dateLessThan.comparator texts).accepts x = true ↔
      ∃ v ∈ texts, Family.date.Relates .lessThan x v :=
    accepts_operator (f := .date) (r := .lessThan) (.inr nofun)
  have hgreater : (Operator.dateGreaterThan.comparator texts).accepts x = true ↔
      ∃ v ∈ texts, Family.date.Relates .greaterThan x v :=
    accepts_operator (f := .date) (r := .greaterThan) (.inr nofun)
  have hholds : ∀ v, Operator.dateNotEquals.Holds x v ↔
      Family.date.Relates .lessThan x v ∨ Family.date.Relates .greaterThan x v ∨
        ¬ (Family.date.Reads x ↔ Family.date.Writes v) := by
    intro v
    have hne : Family.date.Relates .notEquals x v ↔
        Family.date.Relates .lessThan x v ∨ Family.date.Relates .greaterThan x v :=
      Family.relates_or fun _ _ => ne_iff_lt_or_gt
    have hoperator := Family.holds_operator (f := .date) (r := .notEquals) (x := x) (v := v)
    rw [Family.operator, hne, or_assoc] at hoperator
    simpa using hoperator
  rw [accepts_comparator, hless, hgreater]
  simp only [hholds, and_or_left, exists_or]

/-! ## What the positive operator rejects -/

/-- A negated operator asks for a comparable text that the positive one rejects. -/
theorem holds_of_positive {op positive : Operator} (h : op.positive? = some positive) (v : String) :
    op.Holds x v ↔ positive.Comparable x v ∧ ¬ positive.Holds x v := by
  cases op with
  | stringNotEquals | stringNotEqualsIgnoreCase | stringNotLike =>
    cases h
    simp [Operator.Holds, Operator.Comparable]
  | numericNotEquals =>
    cases h
    constructor
    · rintro ⟨m, n, hm, hn, hne⟩
      refine ⟨⟨⟨m, hm⟩, n, hn⟩, ?_⟩
      rintro ⟨m', n', hm', hn', heq⟩
      exact hne (by rw [hm.unique hm', hn.unique hn']; exact heq)
    · rintro ⟨⟨⟨m, hm⟩, n, hn⟩, hnot⟩
      exact ⟨m, n, hm, hn, fun heq => hnot ⟨m, n, hm, hn, heq⟩⟩
  | notIpAddress =>
    cases h
    constructor
    · rintro ⟨a, ha, hrule, hnot⟩
      refine ⟨⟨⟨a, ha⟩, hrule⟩, ?_⟩
      rintro ⟨b, hb, _, hlists⟩
      exact hnot (ha.unique hb ▸ hlists)
    · rintro ⟨⟨⟨a, ha⟩, hrule⟩, hnot⟩
      exact ⟨a, ha, hrule, fun hlists => hnot ⟨a, ha, hrule, hlists⟩⟩
  | _ => cases h

theorem accepts_negated {op positive : Operator} (h : op.positive? = some positive) :
    (op.comparator texts).accepts x = true ↔
      ∃ v ∈ texts, positive.Comparable x v ∧ (positive.comparator [v]).accepts x = false := by
  rw [accepts_comparator]
  refine exists_congr fun v => and_congr_right fun _ => ?_
  rw [holds_of_positive h, ← Bool.not_eq_true, accepts_comparator]
  simp

end
end AccessDecision.Condition

namespace AccessDecision

open Condition

/-- Within a family the operators are the relations of one order, on every value and
every list of acceptable texts, whatever they read as. What is not equal is less or
greater, and of dates also what is none. A negated operator holds if a comparable text,
taken alone, is rejected by the positive one. -/
theorem families_cohere (x : Condition.Value) (texts : List String) :
    (∀ f : Family,
      (((f.operator .lessThanEquals).comparator texts).accepts x = true ↔
        ((f.operator .lessThan).comparator texts).accepts x = true ∨
          ((f.operator .equals).comparator texts).accepts x = true) ∧
      (((f.operator .greaterThanEquals).comparator texts).accepts x = true ↔
        ((f.operator .greaterThan).comparator texts).accepts x = true ∨
          ((f.operator .equals).comparator texts).accepts x = true) ∧
      ∀ v, f.Reads x ∧ f.Writes v ↔ ∃! r, r ∈ [OrderRelation.lessThan, .equals, .greaterThan] ∧
        ((f.operator r).comparator [v]).accepts x = true) ∧
    ((Operator.numericNotEquals.comparator texts).accepts x = true ↔
      (Operator.numericLessThan.comparator texts).accepts x = true ∨
        (Operator.numericGreaterThan.comparator texts).accepts x = true) ∧
    ((Operator.dateNotEquals.comparator texts).accepts x = true ↔
      (Operator.dateLessThan.comparator texts).accepts x = true ∨
        (Operator.dateGreaterThan.comparator texts).accepts x = true ∨
          ∃ v ∈ texts, ¬ (Family.date.Reads x ↔ Family.date.Writes v)) ∧
    ∀ op positive : Operator, op.positive? = some positive →
      ((op.comparator texts).accepts x = true ↔
        ∃ v ∈ texts, positive.Comparable x v ∧ (positive.comparator [v]).accepts x = false) := by
  refine ⟨fun f => ?_, accepts_numericNotEquals, accepts_dateNotEquals, ?_⟩
  · exact ⟨accepts_lessThanEquals, accepts_greaterThanEquals, one_relation_holds⟩
  · intro op positive h
    exact accepts_negated h

/-- Garbage among the acceptable texts: the negated operator accepts 5 because of the 6
behind it, and the address because of the block that it is not in. -/
theorem garbage_is_not_comparable :
    (Operator.numericNotEquals.positive? = some .numericEquals ∧
      ∃ v ∈ ["five", "5", "6"], Operator.numericEquals.Comparable (.number (.integer 5)) v ∧
        (Operator.numericEquals.comparator [v]).accepts (.number (.integer 5)) = false) ∧
    Operator.notIpAddress.positive? = some .ipAddress ∧
      ∃ v ∈ ["here", "10.0.0.0/8", "192.168.0.0/16"],
        Operator.ipAddress.Comparable (.string "10.0.0.1") v ∧
          (Operator.ipAddress.comparator [v]).accepts (.string "10.0.0.1") = false := by
  refine ⟨⟨rfl, ?_⟩, rfl, ?_⟩
  · have hcohere := families_cohere (.number (.integer 5)) ["five", "5", "6"]
    exact (hcohere.2.2.2 .numericNotEquals .numericEquals rfl).mp (by decide +kernel)
  · have hcohere := families_cohere (.string "10.0.0.1") ["here", "10.0.0.0/8", "192.168.0.0/16"]
    exact (hcohere.2.2.2 .notIpAddress .ipAddress rfl).mp (by decide +kernel)

end AccessDecision
