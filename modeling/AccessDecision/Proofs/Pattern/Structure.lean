import AccessDecision.Proofs.Pattern.Spans

/-
  Structure before content

  Compiling a template looks at its delimiters first, then at how they nest, and only
  then at what stands between them. So a template fails with a delimiter that is no
  ASCII character whatever else is wrong with it, it fails with delimiters that do not
  balance whatever its fragments are, and where neither is so, it can be cut and all
  that may fail is its content.

  What is proved:
    1. `foreignDelimiter?_eq_some` — which delimiter is reported.
    2. `compileWithBudget_cases` — in which order a template fails, and so when it fails
       with a delimiter or with their balance (`compileWithBudget_eq_invalidDelimiter`,
       `compileWithBudget_eq_unbalancedDelimiters`).
    3. `structure_before_content` — what each failure means for the bytes of the
       template, and where the cuts lie if there is none.
-/

namespace AccessDecision.Template

open Text

section
variable {opening closing : UInt8}

theorem ofExpression_eq_error {source : String} {regex : List Char} {budget : Time.Duration}
    {e : PolicyError} (h : CompiledPattern.ofExpression source regex budget = .error e) :
    ∃ cause, e = .compile cause := by
  unfold CompiledPattern.ofExpression at h
  split at h
  · cases h
    exact ⟨_, rfl⟩
  · cases h

theorem checkFragments_eq_error {fragments : List (List Char)} {e : PolicyError}
    (h : checkFragments fragments = .error e) : ∃ cause, e = .compile cause := by
  induction fragments with
  | nil => cases h
  | cons fragment rest ih =>
    rw [checkFragments] at h
    split at h
    · cases h
      exact ⟨_, rfl⟩
    · exact ih h

theorem foreignDelimiter?_eq_none :
    foreignDelimiter? [opening, closing] = none ↔ opening < 128 ∧ closing < 128 := by
  simp [foreignDelimiter?]

/-- Of two delimiters that are no ASCII characters the opening one counts. -/
theorem foreignDelimiter?_eq_some {byte : UInt8} :
    foreignDelimiter? [opening, closing] = some byte ↔
      128 ≤ byte ∧ (byte = opening ∨ opening < 128 ∧ byte = closing) := by
  rw [foreignDelimiter?, List.find?_cons, List.find?_cons]
  by_cases hopening : 128 ≤ opening
  · have hnot : ¬ opening < 128 := UInt8.not_lt.mpr hopening
    simp only [hopening, decide_true, Option.some.injEq, hnot, false_and, or_false]
    constructor
    · rintro rfl
      exact ⟨hopening, rfl⟩
    · intro h
      exact h.2.symm
  · have hlt : opening < 128 := UInt8.not_le.mp hopening
    by_cases hclosing : 128 ≤ closing
    · simp only [hopening, hclosing, decide_true, decide_false, Option.some.injEq]
      constructor
      · rintro rfl
        exact ⟨hclosing, .inr ⟨hlt, rfl⟩⟩
      · rintro ⟨hbyte, rfl | ⟨_, rfl⟩⟩
        · exact absurd hbyte hopening
        · rfl
    · simp only [hopening, hclosing, decide_false, List.find?_nil, reduceCtorEq, false_iff]
      rintro ⟨hbyte, rfl | ⟨_, rfl⟩⟩
      · exact hopening hbyte
      · exact hclosing hbyte

end

section
variable (template : String) (opening closing : UInt8) (budget : Time.Duration)

/-- A template fails by its delimiters, or else by its structure, or else only by its
content. -/
theorem compileWithBudget_cases :
    (∃ byte, foreignDelimiter? [opening, closing] = some byte ∧
      compileWithBudget template opening closing budget = .error (.invalidDelimiter byte)) ∨
    foreignDelimiter? [opening, closing] = none ∧
      ((ofText? (delimiter opening) (delimiter closing) template.toList = none ∧
        compileWithBudget template opening closing budget =
          .error (.unbalancedDelimiters template)) ∨
      (∃ t, ofText? (delimiter opening) (delimiter closing) template.toList = some t) ∧
        ((∃ p, compileWithBudget template opening closing budget = .ok p) ∨
          ∃ cause, compileWithBudget template opening closing budget =
            .error (.compile cause))) := by
  cases hforeign : foreignDelimiter? [opening, closing] with
  | some byte =>
    refine .inl ⟨byte, rfl, ?_⟩
    rw [compileWithBudget, hforeign]
  | none =>
    refine .inr ⟨rfl, ?_⟩
    cases ht : ofText? (delimiter opening) (delimiter closing) template.toList with
    | none =>
      refine .inl ⟨rfl, ?_⟩
      unfold delimiter at ht
      simp only [compileWithBudget, hforeign, ht]
    | some t =>
      refine .inr ⟨⟨t, rfl⟩, ?_⟩
      unfold delimiter at ht
      simp only [compileWithBudget, hforeign, ht]
      cases hcheck : checkFragments t.fragments with
      | error e =>
        obtain ⟨cause, rfl⟩ := checkFragments_eq_error hcheck
        exact .inr ⟨cause, rfl⟩
      | ok _ =>
        cases hexpr : CompiledPattern.ofExpression template t.regex budget with
        | error e =>
          obtain ⟨cause, rfl⟩ := ofExpression_eq_error hexpr
          exact .inr ⟨cause, rfl⟩
        | ok p => exact .inl ⟨p, rfl⟩

theorem compileWithBudget_eq_invalidDelimiter {byte : UInt8} :
    compileWithBudget template opening closing budget = .error (.invalidDelimiter byte) ↔
      foreignDelimiter? [opening, closing] = some byte := by
  rcases compileWithBudget_cases template opening closing budget with
    ⟨b, hforeign, hresult⟩ | ⟨hforeign, ⟨_, hresult⟩ | ⟨_, ⟨p, hresult⟩ | ⟨cause, hresult⟩⟩⟩
  · simp [hforeign, hresult]
  · simp [hforeign, hresult]
  · simp [hforeign, hresult]
  · simp [hforeign, hresult]

section
variable (hopening : opening < 128) (hclosing : closing < 128)
include hopening hclosing

/-- With delimiters that are ASCII characters a template fails by its structure, or else
only by its content. -/
theorem compileWithBudget_of_ascii :
    (ofText? (delimiter opening) (delimiter closing) template.toList = none ∧
      compileWithBudget template opening closing budget =
        .error (.unbalancedDelimiters template)) ∨
    (∃ t, ofText? (delimiter opening) (delimiter closing) template.toList = some t) ∧
      ((∃ p, compileWithBudget template opening closing budget = .ok p) ∨
        ∃ cause, compileWithBudget template opening closing budget =
          .error (.compile cause)) := by
  have hforeign := foreignDelimiter?_eq_none.mpr ⟨hopening, hclosing⟩
  rcases compileWithBudget_cases template opening closing budget with ⟨b, hsome, _⟩ | ⟨_, hcases⟩
  · rw [hforeign] at hsome
    cases hsome
  · exact hcases

theorem compileWithBudget_eq_unbalancedDelimiters {text : String} :
    compileWithBudget template opening closing budget = .error (.unbalancedDelimiters text) ↔
      text = template ∧ nesting opening closing (bytes template) ≠ some 0 := by
  rw [ne_eq, ← utf8_toList, ← ofText?_isSome_iff hopening hclosing]
  rcases compileWithBudget_of_ascii template opening closing budget hopening hclosing with
    ⟨ht, hresult⟩ | ⟨⟨t, ht⟩, ⟨p, hresult⟩ | ⟨cause, hresult⟩⟩
  · simp [hresult, ht, eq_comm]
  · simp [hresult, ht]
  · simp [hresult, ht]

end

/-- A template fails with the first of its delimiters that is no ASCII character,
whatever else is wrong. Else it fails if its bytes do not nest, whatever its fragments
are. Else its spans lie one behind the other between characters, each with its
delimiters around bytes that nest; no delimiter lies outside of them; cut along them the
template falls into its literal texts and its fragments; and only these can fail. -/
theorem structure_before_content :
    (∀ byte, compileWithBudget template opening closing budget =
        .error (.invalidDelimiter byte) ↔
      128 ≤ byte ∧ (byte = opening ∨ opening < 128 ∧ byte = closing)) ∧
    (opening < 128 → closing < 128 →
      (∀ text, compileWithBudget template opening closing budget =
          .error (.unbalancedDelimiters text) ↔
        text = template ∧ nesting opening closing (bytes template) ≠ some 0) ∧
      (opening = closing →
        (nesting opening closing (bytes template) ≠ some 0 ↔ opening ∈ bytes template)) ∧
      ((delimiterSpans opening closing (bytes template)).isSome = true ↔
        nesting opening closing (bytes template) = some 0) ∧
      ∀ spans, delimiterSpans opening closing (bytes template) = some spans →
        (spans.Pairwise fun r s => r.1 < s.1 ∧ r.2 ≤ s.1) ∧
        (∀ span ∈ spans, IsSpan opening closing template span) ∧
        (∀ i byte, (bytes template)[i]? = some byte → byte = opening ∨ byte = closing →
          ∃ span ∈ spans, span.1 ≤ i ∧ i < span.2) ∧
        (∃ t : Template,
          ofText? (delimiter opening) (delimiter closing) template.toList = some t ∧
          t.text (delimiter opening) (delimiter closing) = template.toList ∧
          cutAlong (bytes template) 0 spans =
            (utf8 t.head, t.rest.map fun x => (utf8 x.1, utf8 x.2))) ∧
        ((∃ p, compileWithBudget template opening closing budget = .ok p) ∨
          ∃ cause, compileWithBudget template opening closing budget =
            .error (.compile cause))) := by
  refine ⟨fun byte => ?_, fun hopening hclosing => ?_⟩
  · rw [compileWithBudget_eq_invalidDelimiter, foreignDelimiter?_eq_some]
  · refine ⟨fun text => ?_, ?_, delimiterSpans_isSome_iff, fun spans hspans => ?_⟩
    · exact compileWithBudget_eq_unbalancedDelimiters template opening closing budget
        hopening hclosing
    · rintro rfl
      rw [ne_eq, nesting_same, not_not]
    · obtain ⟨t, ht, hparts, rfl⟩ := parts_of_delimiterSpans hopening hclosing hspans
      have htext : t.text (delimiter opening) (delimiter closing) = template.toList := by
        rw [text_eq, hparts.text]
      refine ⟨pairwise_spansFrom _ _, ?_, ?_, ⟨t, ht, htext, ?_⟩, ?_⟩
      · exact fun span => isSpan_of_parts hopening hclosing hparts
      · exact fun i byte => covered_of_parts hopening hclosing hparts
      · exact cutAlong_of_parts hopening hclosing hparts
      · rcases compileWithBudget_of_ascii template opening closing budget hopening hclosing with
          ⟨hnone, _⟩ | ⟨_, hcontent⟩
        · rw [ht] at hnone
          cases hnone
        · exact hcontent

end

/-- Braces around an expression with a lone parenthesis, and a byte that is half of a
character taken for a delimiter. -/
theorem accented_template_structure :
    delimiterSpans 123 125 (bytes "é{a{(}}y{b}") = some [(2, 8), (9, 12)] ∧
      (∀ span ∈ [(2, 8), (9, 12)], IsSpan 123 125 "é{a{(}}y{b}" span) ∧
      compileWithBudget "é{a{(}}y{b}" 123 125 .zero ≠
        .error (.unbalancedDelimiters "é{a{(}}y{b}") ∧
      compileWithBudget "é{a{(}}y{b}" 195 233 .zero = .error (.invalidDelimiter 195) := by
  have hspans : delimiterSpans 123 125 (bytes "é{a{(}}y{b}") = some [(2, 8), (9, 12)] := by
    decide +kernel
  have hbraces := structure_before_content "é{a{(}}y{b}" 123 125 .zero
  obtain ⟨hunbalanced, _, hsome, hcut⟩ := hbraces.2 (by decide) (by decide)
  obtain ⟨_, hspan, _⟩ := hcut _ hspans
  refine ⟨hspans, hspan, fun herror => ?_, ?_⟩
  · obtain ⟨_, hnot⟩ := (hunbalanced _).mp herror
    exact hnot (hsome.mp (by rw [hspans]; rfl))
  · exact ((structure_before_content "é{a{(}}y{b}" 195 233 .zero).1 195).mpr (by decide)

end AccessDecision.Template
