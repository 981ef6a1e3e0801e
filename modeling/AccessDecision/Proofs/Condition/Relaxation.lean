import AccessDecision.Proofs.Condition.Evaluation

/-
  Conditions that ask no more

  A condition relaxes another if everything it asks is asked there as well: the same
  operators or fewer, under each the same attributes or fewer, and for each attribute
  the same acceptable texts or more. Texts count as a set, so their order and their
  repetitions do not matter. A context matters only at the keys that a condition
  names.

  What is proved:
    1. `Holds.relax` — what satisfies a condition satisfies every condition that
       relaxes it, in every context that agrees on the keys it names.
    2. `relaxes_ask` — to add an operator, to add an attribute and to take acceptable
       texts away leaves a condition that the one before relaxes.
    3. `evaluate_of_relaxes` — so decisions are monotone, and conditions that relax
       each other decide alike.
-/

namespace AccessDecision.Condition

/-- Every attribute is asked for there as well, with no texts but those acceptable
here. -/
def AttributesRelax (attributes attributes' : KeyMap (List String)) : Prop :=
  ∀ key texts, attributes.get? key = some texts →
    ∃ texts', attributes'.get? key = some texts' ∧ texts' ⊆ texts

/-- Every operator of `c` is in `d` as well, and asks no less there. -/
def Relaxes (c d : Condition) : Prop :=
  ∀ name attributes, c.get? name = some attributes →
    ∃ attributes', d.get? name = some attributes' ∧ AttributesRelax attributes attributes'

/-- Some operator asks for the attribute. -/
def Names (c : Condition) (key : String) : Prop :=
  ∃ name attributes texts, c.get? name = some attributes ∧ attributes.get? key = some texts

/-- Two contexts are the same at every key that the condition names. -/
def AgreeOn (c : Condition) (context context' : Context) : Prop :=
  ∀ key, c.Names key → context.get? key = context'.get? key

/-- The acceptable texts of an attribute under an operator. -/
def acceptable? (c : Condition) (name key : String) : Option (List String) :=
  (c.get? name).bind (·.get? key)

/-- The condition with the acceptable texts of one attribute set, under an operator
that it may not have had. -/
def ask (c : Condition) (name key : String) (texts : List String) : Condition :=
  c.insert name (((c.get? name).getD .empty).insert key texts)

/-! ## Less is asked -/

theorem AttributesRelax.refl (attributes : KeyMap (List String)) :
    AttributesRelax attributes attributes :=
  fun _ texts hkey => ⟨texts, hkey, List.Subset.refl texts⟩

theorem AttributesRelax.trans {a b c : KeyMap (List String)} (hab : AttributesRelax a b)
    (hbc : AttributesRelax b c) : AttributesRelax a c := by
  intro key texts hkey
  obtain ⟨texts', hkey', hsub⟩ := hab key texts hkey
  obtain ⟨texts'', hkey'', hsub'⟩ := hbc key texts' hkey'
  exact ⟨texts'', hkey'', List.Subset.trans hsub' hsub⟩

theorem Relaxes.trans {c d e : Condition} (hcd : c.Relaxes d) (hde : d.Relaxes e) :
    c.Relaxes e := by
  intro name attributes hname
  obtain ⟨attributes', hname', hrelax⟩ := hcd name attributes hname
  obtain ⟨attributes'', hname'', hrelax'⟩ := hde name attributes' hname'
  exact ⟨attributes'', hname'', hrelax.trans hrelax'⟩

/-- What a condition names, every condition that it relaxes names too. -/
theorem Relaxes.names {c d : Condition} (h : c.Relaxes d) {key : String} (hc : c.Names key) :
    d.Names key := by
  obtain ⟨name, attributes, texts, hname, hkey⟩ := hc
  obtain ⟨attributes', hname', hrelax⟩ := h name attributes hname
  obtain ⟨texts', hkey', _⟩ := hrelax key texts hkey
  exact ⟨name, attributes', texts', hname', hkey'⟩

/-- What satisfies a condition satisfies those that relax it, whatever the context
holds under keys that they do not name. -/
theorem Holds.relax {c d : Condition} {context context' : Context} (hd : d.Holds context)
    (h : c.Relaxes d) (hagree : c.AgreeOn context context') : c.Holds context' := by
  intro name attributes hname
  obtain ⟨attributes', hname', hrelax⟩ := h name attributes hname
  obtain ⟨op, hop, hattributes⟩ := hd name attributes' hname'
  refine ⟨op, hop, fun key texts hkey => ?_⟩
  obtain ⟨texts', hkey', hsub⟩ := hrelax key texts hkey
  obtain ⟨x, hx, v, hv, hholds⟩ := hattributes key texts' hkey'
  -- The text that satisfies the operator is acceptable here too.
  have hsame : context.get? key = context'.get? key :=
    hagree key ⟨name, attributes, texts, hname, hkey⟩
  exact ⟨x, hsame ▸ hx, v, hsub hv, hholds⟩

/-! ## More is asked -/

/-- To set the acceptable texts of an attribute asks no less if it had none before, or
if all of them were acceptable. -/
theorem attributesRelax_insert {attributes : KeyMap (List String)} {key : String}
    {texts : List String} (h : ∀ before, attributes.get? key = some before → texts ⊆ before) :
    AttributesRelax attributes (attributes.insert key texts) := by
  intro key' before hkey'
  rw [KeyMap.get?_insert]
  split
  · rename_i heq
    subst heq
    exact ⟨texts, rfl, h before hkey'⟩
  · exact ⟨before, hkey', List.Subset.refl before⟩

/-- A condition asks no less after an attribute is added, under an operator that may be
new, or after acceptable texts of an attribute are taken away. -/
theorem relaxes_ask {c : Condition} {name key : String} {texts : List String}
    (h : ∀ before, c.acceptable? name key = some before → texts ⊆ before) :
    c.Relaxes (c.ask name key texts) := by
  intro name' before hname'
  rw [ask, KeyMap.get?_insert]
  split
  · rename_i heq
    subst heq
    refine ⟨_, rfl, ?_⟩
    rw [hname']
    apply attributesRelax_insert
    intro texts' hkey
    exact h texts' (by rw [acceptable?, hname']; exact hkey)
  · exact ⟨before, hname', .refl before⟩

end AccessDecision.Condition

namespace AccessDecision

open Condition

/-- A condition that relaxes another is satisfied wherever that one is, also in a
context that differs at keys it does not name. It stays so when more is asked of the
other. Conditions that relax each other, which differ in the order and the repetitions
of acceptable texts, decide alike. -/
theorem evaluate_of_relaxes {c d : Condition} {context context' : Context} (h : c.Relaxes d)
    (hagree : c.AgreeOn context context') :
    ((ConditionSet.ofCondition d).evaluate context = true →
      (ConditionSet.ofCondition c).evaluate context' = true) ∧
    (∀ name key texts, (∀ before, d.acceptable? name key = some before → texts ⊆ before) →
      (ConditionSet.ofCondition (d.ask name key texts)).evaluate context = true →
      (ConditionSet.ofCondition c).evaluate context' = true) ∧
    (d.Relaxes c → (ConditionSet.ofCondition c).evaluate context' =
      (ConditionSet.ofCondition d).evaluate context) := by
  have hforward : ∀ e, c.Relaxes e → (ConditionSet.ofCondition e).evaluate context = true →
      (ConditionSet.ofCondition c).evaluate context' = true := by
    intro e he
    rw [evaluate_iff_holds, evaluate_iff_holds]
    intro hholds
    exact hholds.relax he hagree
  refine ⟨hforward d h, ?_, ?_⟩
  · intro name key texts hfewer
    exact hforward _ (h.trans (relaxes_ask hfewer))
  · intro hback
    have hagree' : d.AgreeOn context' context :=
      fun key hkey => (hagree key (hback.names hkey)).symm
    rw [Bool.eq_iff_iff]
    refine ⟨fun hc => ?_, hforward d h⟩
    rw [evaluate_iff_holds] at hc ⊢
    exact hc.relax hback hagree'

/-- A number other than 5 and a text with an `a` in it; the text `five` is acceptable,
but no number. -/
def strictCondition : Condition :=
  ⟨[("NumericNotEquals", ⟨[("n", ["five", "5"])], by decide⟩),
    ("StringLike", ⟨[("s", ["a"])], by decide⟩)], by decide⟩

/-- Only the number, with one acceptable text more and another twice. -/
def looseCondition : Condition :=
  ⟨[("NumericNotEquals", ⟨[("n", ["5", "7", "five", "5"])], by decide⟩)], by decide⟩

theorem loose_condition_holds :
    let context : Context := ⟨[("n", .number (.integer 6)), ("s", .string "abc")], by decide⟩
    let context' : Context := ⟨[("n", .number (.integer 6)), ("t", .boolean true)], by decide⟩
    (looseCondition.Relaxes strictCondition ∧ looseCondition.AgreeOn context context') ∧
      (ConditionSet.ofCondition strictCondition).evaluate context = true ∧
      (ConditionSet.ofCondition looseCondition).evaluate context' = true := by
  intro context context'
  have hentry : ∀ {name attributes}, looseCondition.get? name = some attributes →
      name = "NumericNotEquals" ∧ attributes = ⟨[("n", ["5", "7", "five", "5"])], by decide⟩ := by
    intro name attributes hname
    simpa [looseCondition] using KeyMap.mem_entries.mpr hname
  have hrelax : looseCondition.Relaxes strictCondition := by
    intro name attributes hname
    obtain ⟨rfl, rfl⟩ := hentry hname
    refine ⟨⟨[("n", ["five", "5"])], by decide⟩, by decide, fun key texts hkey => ?_⟩
    obtain ⟨rfl, rfl⟩ : key = "n" ∧ texts = ["5", "7", "five", "5"] := by
      simpa using KeyMap.mem_entries.mpr hkey
    exact ⟨["five", "5"], by decide, by decide⟩
  have hagree : looseCondition.AgreeOn context context' := by
    rintro key ⟨name, attributes, texts, hname, hkey⟩
    obtain ⟨rfl, rfl⟩ := hentry hname
    obtain ⟨rfl, rfl⟩ : key = "n" ∧ texts = ["5", "7", "five", "5"] := by
      simpa using KeyMap.mem_entries.mpr hkey
    decide
  have hstrict : (ConditionSet.ofCondition strictCondition).evaluate context = true := by
    decide +kernel
  exact ⟨⟨hrelax, hagree⟩, hstrict, (evaluate_of_relaxes hrelax hagree).1 hstrict⟩

end AccessDecision
