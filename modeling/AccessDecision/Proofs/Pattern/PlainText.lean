import AccessDecision.Proofs.Pattern.Footprint
import AccessDecision.Proofs.Pattern.Sharing
import AccessDecision.Proofs.Pattern.Structure

/-
  Three ways to match plain text

  A text without a star can be matched as an element of a pattern list, by the compiled
  pattern of the text, and by the text as a template whose delimiters do not occur in it.
  The first never comes to an expression. The other two escape the text and parse it
  back, and what they parse is the same expression.

  What is proved:
    1. `compileWithBudget_plain` — such a template compiles to what the text compiles to
       as a wildcard pattern, or fails as that does.
    2. `isMatch_plain` — what a text without a star compiles to matches the text alone.
    3. `plain_text_agrees` — so all three decide by whether the candidate is the text,
       unless the expression is too big, where the last two fail with the same error.
-/

namespace AccessDecision

variable {text : String} {budget : Time.Duration}

theorem isWildcard_eq_false : isWildcard text = false ↔ wildcardChar ∉ text.toList := by
  rw [isWildcard, List.contains_eq_mem, decide_eq_false_iff_not]

namespace Template

variable {opening closing : UInt8}

/-- A text without delimiters is a template without fragments. -/
theorem ofText?_undelimited {o c : Char} {cs : List Char} (h : Undelimited o c cs) :
    ofText? o c cs = some ⟨cs, []⟩ := by
  rw [ofText?, Progress.start, Progress.foldlM_undelimited h, Option.bind_some, Progress.finish,
    if_pos rfl, List.append_nil, List.reverse_reverse]
  rfl

theorem regex_plain {cs : List Char} (h : wildcardChar ∉ cs) :
    regex ⟨cs, []⟩ = CompiledPattern.wildcardRegex cs := by
  rw [CompiledPattern.wildcardRegex, Text.fields_of_not_mem h, CompiledPattern.joinPieces, regex,
    List.flatMap_nil, List.append_nil]

/-- A template that holds neither a delimiter nor a star is compiled as the wildcard
pattern of its text. -/
theorem compileWithBudget_plain (hplain : isWildcard text = false) (hopening : opening < 128)
    (hclosing : closing < 128)
    (hfree : Undelimited (delimiter opening) (delimiter closing) text.toList) :
    compileWithBudget text opening closing budget = CompiledPattern.wildcard text budget := by
  have hforeign := foreignDelimiter?_eq_none.mpr ⟨hopening, hclosing⟩
  have hsplit := ofText?_undelimited hfree
  unfold delimiter at hsplit
  simp only [compileWithBudget, hforeign, hsplit, fragments, List.map_nil, checkFragments]
  rw [regex_plain (isWildcard_eq_false.mp hplain), CompiledPattern.wildcard]

end Template

/-- What a text without a star compiles to matches the text alone. -/
theorem CompiledPattern.isMatch_plain {p : CompiledPattern} (hplain : isWildcard text = false)
    (h : wildcard text budget = .ok p) {clock : Clock} {candidate : String}
    (htime : clock 0 p ≤ budget) :
    p.isMatch clock candidate = .ok (decide (candidate = text)) := by
  obtain rfl := eq_ofWildcard h
  rw [isMatch_of_inTime htime]
  refine congrArg Except.ok (Bool.eq_iff_iff.mpr ?_)
  rw [ofWildcard, isMatch_wildcardExpr, globs_of_not_mem (isWildcard_eq_false.mp hplain),
    decide_eq_true_iff, String.toList_inj, eq_comm]

/-- Over patterns as they compile now, calling for a pattern gives what it compiles to. -/
theorem PatternMatcher.compiled_of_served {m : PatternMatcher}
    (hm : m.cache.Served (CompiledPattern.StandsFor m.budget)) (pattern : String) :
    (m.compiled pattern).1 = CompiledPattern.wildcard pattern m.budget := by
  rw [compiled_eq]
  cases hpeek : m.cache.peek? pattern with
  | none => rfl
  | some p => exact (PatternCache.serves_of_peek? hm hpeek).symm

/-- A text without a star and without two delimiters matches a candidate as an element
of a list, by its compiled form, and as a template exactly if the candidate is the text,
as long as its expression is within the bound. That the compiled form comes from a cache
makes no difference, however many callers have filled it. -/
theorem plain_text_agrees {opening closing : UInt8} (hplain : isWildcard text = false)
    (hopening : opening < 128) (hclosing : closing < 128)
    (hfree : Undelimited (Template.delimiter opening) (Template.delimiter closing) text.toList)
    {ι : Type} [DecidableEq ι] (config : MatcherConfig) (events : List (Event ι))
    (budget : Time.Duration) :
    let m := ((Shared.start ι config).run events).matcher
    (∀ clock candidate, m.matchesOne clock candidate text = (.ok (decide (candidate = text)), m)) ∧
    ((∃ p q, (m.compiled text).1 = .ok p ∧
        Template.compileWithBudget text opening closing budget = .ok q ∧
        ∀ (clock : Clock) (candidate : String),
          (clock 0 p ≤ config.matchTimeout →
            p.isMatch clock candidate = .ok (decide (candidate = text))) ∧
          (clock 0 q ≤ budget →
            q.isMatch clock candidate = .ok (decide (candidate = text)))) ∨
      ∃ e, Regex.parse (CompiledPattern.wildcardRegex text.toList) = .ok e ∧
        Regex.sizeLimit < e.memory ∧
        (m.compiled text).1 = .error (.compile (.tooBig Regex.sizeLimit)) ∧
        Template.compileWithBudget text opening closing budget =
          .error (.compile (.tooBig Regex.sizeLimit))) := by
  intro m
  have hsound : ((Shared.start ι config).run events).Sound config False :=
    Shared.sound_run Shared.sound_start nofun
  have hcompiled : (m.compiled text).1 = CompiledPattern.wildcard text config.matchTimeout := by
    rw [← hsound.budget_eq]
    exact PatternMatcher.compiled_of_served (hsound.budget_eq ▸ hsound.served) text
  have htemplate : Template.compileWithBudget text opening closing budget =
      CompiledPattern.wildcard text budget :=
    Template.compileWithBudget_plain hplain hopening hclosing hfree
  refine ⟨?_, ?_⟩
  · intro clock candidate
    rw [PatternMatcher.matchesOne, hplain]
    simp only [Bool.false_eq_true, if_false, Prod.mk.injEq, and_true]
    exact congrArg Except.ok (Bool.eq_iff_iff.mpr (by rw [beq_iff_eq, decide_eq_true_iff, eq_comm]))
  · rw [hcompiled, htemplate]
    rcases Nat.lt_or_ge Regex.sizeLimit (CompiledPattern.wildcardExpr text.toList).memory with
      hbig | hfits
    · right
      refine ⟨_, CompiledPattern.parse_wildcardRegex _, hbig, ?_, ?_⟩
      · rw [CompiledPattern.wildcard_eq, if_neg (Nat.not_le.mpr hbig)]
      · rw [CompiledPattern.wildcard_eq, if_neg (Nat.not_le.mpr hbig)]
    · left
      have hcompiles (b : Time.Duration) : CompiledPattern.wildcard text b =
          .ok (CompiledPattern.ofWildcard text b) := by
        rw [CompiledPattern.wildcard_eq, if_pos hfits]
      exact ⟨_, _, hcompiles _, hcompiles _, fun clock candidate =>
        ⟨CompiledPattern.isMatch_plain hplain (hcompiles _),
          CompiledPattern.isMatch_plain hplain (hcompiles _)⟩⟩

/-- Neither signs of expressions nor a last line end matter. -/
theorem signs_match_themselves :
    let text := "^(a|b)\\.\n"
    isWildcard text = false ∧ (60 : UInt8) < 128 ∧ (62 : UInt8) < 128 ∧
      Undelimited (Template.delimiter 60) (Template.delimiter 62) text.toList ∧
      ∃ p q, (PatternMatcher.default.compiled text).1 = .ok p ∧
        Template.compile text 60 62 = .ok q ∧
        ∀ candidate : String, p.isMatch (fun _ _ => .zero) candidate =
          .ok (decide (candidate = text)) ∧ q.isMatch (fun _ _ => .zero) candidate =
          .ok (decide (candidate = text)) := by
  intro text
  have hplain : isWildcard text = false := by decide
  have hfree : Undelimited (Template.delimiter 60) (Template.delimiter 62) text.toList := by
    constructor <;> decide
  refine ⟨hplain, by decide, by decide, hfree, ?_⟩
  have hzero : ∀ budget : Time.Duration, Time.Duration.zero ≤ budget := fun budget =>
    Nat.zero_le budget.nanos
  rcases (plain_text_agrees hplain (by decide) (by decide) hfree MatcherConfig.default
      ([] : List (Event Unit)) MatcherConfig.default.matchTimeout).2 with
    ⟨p, q, hp, hq, hmatch⟩ | ⟨e, he, hbig, _⟩
  · exact ⟨p, q, hp, hq, fun candidate => ⟨(hmatch _ candidate).1 (hzero _),
      (hmatch _ candidate).2 (hzero _)⟩⟩
  · have hfits : (CompiledPattern.wildcardExpr text.toList).memory ≤ Regex.sizeLimit := by
      decide +kernel
    cases (CompiledPattern.parse_wildcardRegex _).symm.trans he
    omega

end AccessDecision
