import AccessDecision.Proofs.Condition.Meaning
import AccessDecision.Proofs.KeyMap

/-
  Conditions are decided as they are written

  A condition is decided through comparators that read every acceptable text
  beforehand. This module shows that nothing is lost on the way.

  What is proved:
    1. `accepts_comparator` — the comparator of an operator accepts a value exactly
       if one of the acceptable texts satisfies the operator.
    2. `evaluate_iff_holds` — a condition that is made ready is satisfied exactly
       by the contexts of which it holds as it is written.
-/

namespace AccessDecision.Condition

/-! ## The relations -/

theorem occursIn_iff {part whole : List Char} : occursIn part whole = true ↔ part <:+: whole := by
  induction whole with
  | nil => simp [occursIn]
  | cons c rest ih =>
    rw [occursIn, Bool.or_eq_true, ih, List.isPrefixOf_iff_prefix, List.infix_cons_iff]

/-- An order relation between values that are compared by a key. -/
theorem holds_iff_relates {α β : Type} [LT α] [DecidableEq α] [DecidableRel (α := α) (· < ·)]
    [LinearOrder β] (key : α → β) (heq : ∀ a b, a = b ↔ key a = key b)
    (hlt : ∀ a b, a < b ↔ key a < key b) (r : OrderRelation) (a b : α) :
    r.holds a b = true ↔ r.Relates (key a) (key b) := by
  cases r with
  | equals => simp [OrderRelation.holds, OrderRelation.Relates, heq]
  | notEquals => simp [OrderRelation.holds, OrderRelation.Relates, heq]
  | lessThan => simp [OrderRelation.holds, OrderRelation.Relates, hlt]
  | lessThanEquals => simp [OrderRelation.holds, OrderRelation.Relates, heq, hlt, le_iff_lt_or_eq]
  | greaterThan => simp [OrderRelation.holds, OrderRelation.Relates, hlt]
  | greaterThanEquals =>
    simp [OrderRelation.holds, OrderRelation.Relates, heq, hlt, le_iff_lt_or_eq,
      eq_comm (a := key b) (b := key a)]

theorem holds_int (r : OrderRelation) (m n : Int) : r.holds m n = true ↔ r.Relates m n :=
  holds_iff_relates id (fun _ _ => Iff.rfl) (fun _ _ => Iff.rfl) r m n

theorem holds_instant (r : OrderRelation) (i j : Time.Instant) :
    r.holds i j = true ↔ r.Relates (instantKey i) (instantKey j) := by
  refine holds_iff_relates instantKey (fun i j => ?_) (fun i j => ?_) r i j
  · obtain ⟨s, n⟩ := i
    obtain ⟨s', n'⟩ := j
    simp [instantKey]
  · rw [instantKey, instantKey, Prod.Lex.toLex_lt_toLex]
    rfl

/-! ## The five families -/

section
variable {x : Value} {texts : List String}

theorem accepts_ofStrings {r : StringRelation} :
    (Comparator.ofStrings r texts).accepts x = true ↔
      ∃ v ∈ texts, r.holds (r.prepare x.asText) (r.prepare v) = true := by
  simp [Comparator.ofStrings, Comparator.accepts]

theorem accepts_ofNumbers {r : OrderRelation} :
    (Comparator.ofNumbers r texts).accepts x = true ↔ ∃ v ∈ texts, ComparesIntegers r x v := by
  simp only [Comparator.ofNumbers, Comparator.accepts, ComparesIntegers, ← asInteger?_eq_some,
    ← integerOfText?_eq_some]
  cases asInteger? x with
  | none => simp
  | some m => simp [holds_int, Option.any_eq_true]

theorem accepts_ofDates {r : OrderRelation} :
    (Comparator.ofDates r texts).accepts x = true ↔ ∃ v ∈ texts, ComparesInstants r x v := by
  have hread : ∀ i, ReadsInstant x i ↔
      ∃ t, (x.asString?.bind Time.Timestamp.ofText?) = some t ∧ t.instant = i := by
    intro i
    simp only [ReadsInstant, WritesInstant, Option.bind_eq_some_iff, asString?_eq_some]
    constructor
    · intro h
      obtain ⟨s, rfl, t, ht, rfl⟩ := h
      exact ⟨t, ⟨s, rfl, ht⟩, rfl⟩
    · intro h
      obtain ⟨t, ⟨s, rfl, ht⟩, rfl⟩ := h
      exact ⟨s, rfl, t, ht, rfl⟩
  simp only [Comparator.ofDates, Comparator.accepts, List.any_map, List.any_eq_true,
    Function.comp_apply]
  refine exists_congr fun v => and_congr_right fun _ => ?_
  -- Either side may be no date: only "not equal" holds then, and not if neither is one.
  simp only [ComparesInstants, hread, WritesInstant]
  cases x.asString?.bind Time.Timestamp.ofText? <;> cases Time.Timestamp.ofText? v <;>
    simp [Comparator.dateHolds, holds_instant]

theorem accepts_bool :
    (Comparator.bool (texts.map boolOfText?)).accepts x = true ↔
      ∃ v ∈ texts, ∃ b, ReadsBool x b ∧ WritesBool v b := by
  simp only [Comparator.accepts, ← asBool?_eq_some, ← boolOfText?_eq_some]
  cases asBool? x with
  | none => simp
  | some b => simp

/-- The rule that a text is covers an address exactly if the text lists it, and is
unusable exactly if the text is neither an address nor a block. -/
theorem covers?_ofText (text : String) (a : Network.Address) (covered : Bool) :
    (AddressRule.ofText text).covers? a = some covered ↔
      IsAddressRule text ∧ (covered = true ↔ Lists text a) := by
  -- No text is both an address and a block, so it does not matter which is tried first.
  simp only [IsAddressRule, Lists, WritesAddress, AddressRule.ofText]
  cases haddress : Network.Address.ofText? text with
  | some b =>
    have hblock := Network.blockOfText?_of_address haddress
    cases covered <;> simp [AddressRule.covers?, hblock]
  | none =>
    cases hblock : Network.Block.ofText? text with
    | some b =>
      cases covered <;> simp [AddressRule.covers?, ← Network.Block.contains_iff_covers]
    | none => simp [AddressRule.covers?]

theorem accepts_ofAddresses {negated : Bool} :
    (Comparator.ofAddresses negated texts).accepts x = true ↔
      ∃ v ∈ texts, ∃ a, ReadsAddress x a ∧ IsAddressRule v ∧ (negated = true ↔ ¬ Lists v a) := by
  simp only [Comparator.ofAddresses, Comparator.accepts, ← addressOf?_eq_some]
  cases Comparator.addressOf? x with
  | none => simp
  | some a =>
    simp only [List.any_map, List.any_eq_true, Function.comp_apply, Option.any_eq_true,
      covers?_ofText, bne_iff_ne, Option.some.injEq, exists_eq_left']
    refine exists_congr fun v => and_congr_right fun _ => ?_
    by_cases hlists : Lists v a <;> cases negated <;> simp [hlists]

end

/-- The comparator of an operator accepts a value exactly if one of the acceptable
texts satisfies the operator. -/
theorem accepts_comparator (op : Operator) (texts : List String) (x : Value) :
    (op.comparator texts).accepts x = true ↔ ∃ v ∈ texts, op.Holds x v := by
  cases op with
  | stringEquals | stringNotEquals | stringEqualsIgnoreCase | stringNotEqualsIgnoreCase =>
    rw [Operator.comparator, accepts_ofStrings]
    simp [StringRelation.holds, StringRelation.prepare, StringRelation.ignoresCase, Operator.Holds]
  | stringLike | stringNotLike =>
    rw [Operator.comparator, accepts_ofStrings]
    simp [StringRelation.holds, StringRelation.prepare, StringRelation.ignoresCase, Operator.Holds,
      ← occursIn_iff]
  | numericEquals | numericNotEquals | numericLessThan | numericLessThanEquals |
      numericGreaterThan | numericGreaterThanEquals => exact accepts_ofNumbers
  | dateEquals | dateNotEquals | dateLessThan | dateLessThanEquals | dateGreaterThan |
      dateGreaterThanEquals => exact accepts_ofDates
  | bool => exact accepts_bool
  | ipAddress | notIpAddress =>
    rw [Operator.comparator, accepts_ofAddresses]
    simp [Operator.Holds]

/-! ## Blocks and conditions -/

/-- A name is that of an operator exactly if one is found under it. -/
theorem ofName?_eq_some {name : String} {op : Operator} :
    Operator.ofName? name = some op ↔ op.name = name := by
  constructor
  · intro h
    simpa using List.find?_some h
  · intro h
    subst h
    cases op <;> rfl

theorem check_holds {key : String} {comparator : Comparator} {context : Context} :
    (Check.mk key comparator).holds context = true ↔
      ∃ x, context.get? key = some x ∧ comparator.accepts x = true := by
  rw [Check.holds]
  cases context.get? key with
  | none => simp
  | some x => simp

theorem block_holds {name : String} {attributes : KeyMap (List String)} {context : Context} :
    (Block.ofEntry name attributes).holds context = true ↔
      ∃ op : Operator, op.name = name ∧ ∀ key texts, attributes.get? key = some texts →
        ∃ x, context.get? key = some x ∧ ∃ v ∈ texts, op.Holds x v := by
  simp only [← ofName?_eq_some, ← KeyMap.mem_entries (m := attributes), Block.ofEntry]
  cases Operator.ofName? name with
  | none => simp [Block.holds]
  | some op => simp [Block.holds, check_holds, accepts_comparator]

/-- A condition holds as it is written if each of its blocks does. -/
theorem blocks_hold {c : Condition} {context : Context} :
    (∀ block ∈ (ConditionSet.ofCondition c).blocks, block.holds context = true) ↔
      c.Holds context := by
  simp only [ConditionSet.ofCondition, List.forall_mem_map, block_holds, Holds, Prod.forall,
    KeyMap.mem_entries]

end AccessDecision.Condition

namespace AccessDecision

/-- A condition that is made ready is satisfied by a context exactly if it holds of
the context as it is written. -/
theorem evaluate_iff_holds (c : Condition) (context : Context) :
    (ConditionSet.ofCondition c).evaluate context = true ↔ c.Holds context := by
  rw [ConditionSet.evaluate, List.all_eq_true, Condition.blocks_hold]

end AccessDecision
