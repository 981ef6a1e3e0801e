import AccessDecision.Pattern.Template
import AccessDecision.Proofs.Pattern.Verdict

/-
  Patterns that others put into the cache

  The cache of a matcher takes any compiled pattern, also one that was compiled
  from a template, and keeps it under its source text. A wildcard of the same text
  is then answered by that pattern.

  What is proved:
    1. `served_after` — operations that offer only patterns which serve their texts
       leave only such patterns in the cache, whatever serving a text means;
       `standsFor_after` — without offers, each text has what it compiles to.
    2. `matchesAny_of_served` — over such patterns, a scan in time has the verdict it
       has without a cache.
    3. `matchesList_of_answers` and `answers_of_matchesList` — the verdicts of a
       matcher are those of a new one exactly if its cache holds only patterns which
       decide like the wildcards of their texts (`CompiledPattern.Answers`).
    4. `verdicts_as_new_iff` — so it is for every run of operations on a new matcher.
       `template_decides_wildcard` is a run of one offer after which a verdict is
       another one than on a new matcher.
-/

namespace AccessDecision

/-- An operation on a matcher or on its cache. -/
inductive Operation where
  | call (call : Call) (clock : Clock)
  | get (key : String)
  | contains (key : String)
  | offer (p : CompiledPattern)
  | clear

/-- Whether a pattern may be kept under a text: if the text can be an element of a
pattern list that is looked up, the pattern decides like the wildcard of the text.
An element holds no separator, and one that is no wildcard is not looked up. -/
def CompiledPattern.Answers (budget : Time.Duration) (key : String) (p : CompiledPattern) : Prop :=
  isWildcard key = true → patternSeparator ∉ key.toList → p.Agrees budget key

namespace PatternMatcher

variable {m : PatternMatcher} {budget : Time.Duration} {clock : Clock}
  {serves : String → CompiledPattern → Prop}

/-- The matcher after an operation. -/
def apply (m : PatternMatcher) : Operation → PatternMatcher
  | .call call clock => (call.perform clock m).2
  | .get key => { m with cache := (m.cache.get? key).2 }
  | .contains _ => m
  | .offer p => { m with cache := (m.cache.getOrInsert p).2 }
  | .clear => { m with cache := m.cache.clear }

/-- The matcher after some operations. -/
def after (m : PatternMatcher) (ops : List Operation) : PatternMatcher := ops.foldl apply m

/-! ## Runs of operations -/

theorem budget_apply (m : PatternMatcher) (op : Operation) : (m.apply op).budget = m.budget := by
  cases op with
  | call call clock =>
    rw [apply, Call.perform_eq_script]
    exact Script.budget_perform clock m call.script
  | get key | contains key | offer p | clear => rfl

theorem tidy_apply (hm : m.cache.Tidy) (op : Operation) : (m.apply op).cache.Tidy := by
  cases op with
  | call call clock =>
    rw [apply, Call.perform_eq_script]
    exact Script.tidy_perform clock m call.script hm
  | get key => exact PatternCache.tidy_get? hm key
  | contains key => exact hm
  | offer p => exact PatternCache.tidy_getOrInsert hm p
  | clear => exact PatternCache.tidy_clear m.cache

theorem budget_after (m : PatternMatcher) (ops : List Operation) :
    (m.after ops).budget = m.budget := by
  induction ops generalizing m with
  | nil => rfl
  | cons op ops ih => exact (ih (m.apply op)).trans (budget_apply m op)

theorem tidy_after (hm : m.cache.Tidy) (ops : List Operation) : (m.after ops).cache.Tidy := by
  induction ops generalizing m with
  | nil => exact hm
  | cons op ops ih => exact ih (tidy_apply hm op)

section

variable (hserve : ∀ key p, CompiledPattern.wildcard key m.budget = .ok p → serves key p)

include hserve

/-- What a call puts into the cache is compiled by the matcher itself. -/
theorem served_call (hm : m.cache.Served serves) (call : Call) (clock : Clock) :
    (call.perform clock m).2.cache.Served serves := by
  have hscript : call.script.Ensures serves m.budget False (· = call.expected m.budget) :=
    call.ensures_script hserve nofun
  rw [Call.perform_eq_script]
  exact (Script.perform_of_ensures hscript rfl hm nofun).2

theorem served_apply (hm : m.cache.Served serves) (op : Operation)
    (hop : ∀ p, op = .offer p → serves p.source p) : (m.apply op).cache.Served serves := by
  cases op with
  | call call clock => exact served_call hserve hm call clock
  | get key => exact PatternCache.served_get? hm key
  | contains key => exact hm
  | offer p => exact PatternCache.served_getOrInsert hm (hop p rfl)
  | clear => exact fun _ hp => nomatch hp

/-- Operations that offer only patterns which serve their texts leave only such
patterns. -/
theorem served_after (hm : m.cache.Served serves) {ops : List Operation}
    (hops : ∀ p, .offer p ∈ ops → serves p.source p) : (m.after ops).cache.Served serves := by
  induction ops generalizing m with
  | nil => exact hm
  | cons op ops ih =>
    have hfirst := served_apply hserve hm op fun p hp => hops p (hp ▸ List.mem_cons_self)
    rw [← budget_apply m op] at hserve
    exact ih hserve hfirst fun p hp => hops p (List.mem_cons_of_mem op hp)

end

/-- A matcher that is offered nothing keeps what it compiled by itself. -/
theorem standsFor_after (config : MatcherConfig) {ops : List Operation}
    (hops : ∀ p, .offer p ∉ ops) : ((ofConfig config).after ops).cache.Served
      (CompiledPattern.StandsFor config.matchTimeout) :=
  served_after (m := ofConfig config) (fun _ _ h => h) (fun _ hp => nomatch hp)
    fun p hp => absurd hp (hops p)

/-! ## Verdicts -/

theorem mem_patternElements {pattern patterns : String} (h : pattern ∈ patternElements patterns) :
    patternSeparator ∉ pattern.toList := by
  obtain ⟨field, hfield, rfl⟩ := List.mem_map.mp h
  rw [String.toList_ofList]
  exact Text.not_mem_of_mem_fields hfield

theorem patternElements_of_not_mem {pattern : String}
    (h : patternSeparator ∉ pattern.toList) : patternElements pattern = [pattern] := by
  rw [patternElements, Text.fields_of_not_mem h, List.map_singleton, String.ofList_toList]

theorem matchesList_of_new (config : MatcherConfig) (hclock : InTime config.matchTimeout clock)
    (candidate patterns : String) :
    ((ofConfig config).matchesList clock candidate patterns).1 =
      verdictAny config.matchTimeout candidate (patternElements patterns) := by
  have h := Call.perform_of_new (.matchesList candidate patterns) (ofConfig config) rfl hclock
  exact Answer.verdict.inj h

/-- Over patterns that serve their texts, the verdict on some elements is the one without
a cache, and the matcher goes on with only such patterns. -/
theorem matchesAny_of_served
    (hserve : ∀ key p, CompiledPattern.wildcard key budget = .ok p → serves key p)
    (hb : m.budget = budget) (hm : m.cache.Served serves) (hclock : Punctual serves clock)
    (candidate : String) {elements : List String}
    (hagree : ∀ element ∈ elements, isWildcard element = true →
      ∀ p, serves element p → p.Agrees budget element) :
    (matchesAny clock candidate m elements).1 = verdictAny budget candidate elements ∧
      (matchesAny clock candidate m elements).2.budget = budget ∧
      (matchesAny clock candidate m elements).2.cache.Served serves := by
  have hscript : (Script.matchesAny candidate 0 elements).Ensures serves budget True
      (· = verdictAny budget candidate elements) :=
    Script.ensures_matchesAny hserve 0 candidate fun _ => hagree
  have hperform := Script.perform_of_ensures hscript hb hm fun _ => hclock
  rw [← Clock.drop_zero clock, Script.matchesAny_eq_perform]
  exact ⟨hperform.1 trivial, (Script.budget_perform clock m _).trans hb, hperform.2⟩

theorem matchesAny_of_standsFor (hb : m.budget = budget)
    (hm : m.cache.Served (CompiledPattern.StandsFor budget)) (hclock : InTime budget clock)
    (candidate : String) (elements : List String) :
    (matchesAny clock candidate m elements).1 = verdictAny budget candidate elements ∧
      (matchesAny clock candidate m elements).2.budget = budget ∧
      (matchesAny clock candidate m elements).2.cache.Served (CompiledPattern.StandsFor budget) :=
  matchesAny_of_served (fun _ _ h => h) hb hm (Call.punctual_of_inTime hclock) candidate
    fun _ _ _ _ hp => Call.agrees_of_standsFor hp

/-- Over patterns that may be kept under their texts, the verdict is the one without a
cache if both these and what the matcher compiles itself are evaluated in time. -/
theorem matchesList_of_answers (hm : m.cache.Served (CompiledPattern.Answers m.budget))
    (hclock : InTime m.budget clock) (hentries : ∀ p ∈ m.cache.entries, InTime p.budget clock)
    (candidate patterns : String) :
    (m.matchesList clock candidate patterns).1 =
      verdictAny m.budget candidate (patternElements patterns) := by
  let serves (key : String) (p : CompiledPattern) : Prop :=
    p.Answers m.budget key ∧ InTime p.budget clock
  have hserve : ∀ key p, CompiledPattern.wildcard key m.budget = .ok p → serves key p := by
    intro key p h
    refine ⟨fun _ _ => Call.agrees_of_standsFor h, ?_⟩
    rw [CompiledPattern.budget_of_wildcard h]
    exact hclock
  have hserved : m.cache.Served serves := fun p hp => ⟨hm p hp, hentries p hp⟩
  have hpunctual : Punctual serves clock := fun n _ p hp => hp.2 n p rfl
  exact (matchesAny_of_served hserve rfl hserved hpunctual candidate
    fun _ helement hwild _ hp => hp.1 hwild (mem_patternElements helement)).1

/-- A pattern that is found under an element decides the verdict on it. -/
theorem matchesList_of_peek? {pattern : String} {p : CompiledPattern}
    (hpeek : m.cache.peek? pattern = some p) (hwild : isWildcard pattern = true)
    (hsep : patternSeparator ∉ pattern.toList) (hclock : InTime p.budget clock)
    (candidate : String) :
    (m.matchesList clock candidate pattern).1 = .ok (p.expr.isMatch candidate) := by
  have hone : (m.matchesOne clock candidate pattern).1 = .ok (p.expr.isMatch candidate) := by
    rw [matchesOne, if_pos hwild, compiled, PatternCache.get?_of_peek? hpeek]
    exact CompiledPattern.isMatch_of_inTime (hclock 0 p rfl)
  rw [matchesList, patternElements_of_not_mem hsep, matchesAny]
  rcases h : m.matchesOne clock candidate pattern with ⟨v, m'⟩
  rw [h] at hone
  cases hone
  cases p.expr.isMatch candidate <;> rfl

theorem answers_of_matchesList (hm : m.cache.Tidy) (config : MatcherConfig)
    (hclock : InTime config.matchTimeout clock)
    (hentries : ∀ p ∈ m.cache.entries, InTime p.budget clock)
    (h : ∀ candidate patterns, (m.matchesList clock candidate patterns).1 =
      ((ofConfig config).matchesList clock candidate patterns).1) :
    m.cache.Served (CompiledPattern.Answers config.matchTimeout) := by
  intro p hp hwild hsep candidate
  have hpeek := PatternCache.peek?_source hm hp
  -- The text of the pattern is a pattern list of one element, which finds the pattern.
  have hlist := h candidate p.source
  rw [matchesList_of_peek? hpeek hwild hsep (hentries p hp), matchesList_of_new config hclock,
    patternElements_of_not_mem hsep, verdictAny_singleton, verdictOne, if_pos hwild] at hlist
  exact hlist.symm

end PatternMatcher

open PatternMatcher

/-- After any operations on a new matcher, its verdicts in time are those of a new
matcher exactly if each pattern in its cache whose text can be looked up decides like
the wildcard of the text. Operations that offer only such patterns keep it so. -/
theorem verdicts_as_new_iff (config : MatcherConfig) (ops : List Operation) :
    ((∀ fresh : MatcherConfig, fresh.matchTimeout = config.matchTimeout →
        ∀ clock, InTime config.matchTimeout clock →
          (∀ p ∈ ((ofConfig config).after ops).cache.entries, InTime p.budget clock) →
          ∀ candidate patterns,
            (((ofConfig config).after ops).matchesList clock candidate patterns).1 =
              ((ofConfig fresh).matchesList clock candidate patterns).1) ↔
      ∀ p ∈ ((ofConfig config).after ops).cache.entries,
        p.Answers config.matchTimeout p.source) ∧
    ((∀ p, .offer p ∈ ops → p.Answers config.matchTimeout p.source) →
      ∀ p ∈ ((ofConfig config).after ops).cache.entries,
        p.Answers config.matchTimeout p.source) := by
  have hbudget : ((ofConfig config).after ops).budget = config.matchTimeout :=
    budget_after (ofConfig config) ops
  have htidy : ((ofConfig config).after ops).cache.Tidy :=
    tidy_after (PatternCache.tidy_empty _ _) ops
  refine ⟨⟨?_, ?_⟩, ?_⟩
  · intro h
    have hzero (budget : Time.Duration) := inTime_zero budget
    exact answers_of_matchesList htidy config (hzero _) (fun _ _ => hzero _)
      (h config rfl _ (hzero _) fun _ _ => hzero _)
  · intro hanswers fresh hfresh clock hclock hentries candidate patterns
    rw [matchesList_of_new fresh (hfresh.symm ▸ hclock), hfresh]
    rw [← hbudget] at hanswers hclock ⊢
    exact matchesList_of_answers hanswers hclock hentries candidate patterns
  · intro hops
    exact served_after (m := ofConfig config) (fun _ _ h _ _ => Call.agrees_of_standsFor h)
      (fun _ hp => nomatch hp) hops

/-- The template `a*` is literal text, but its pattern takes the place of the
wildcard: after it is offered, `a*` does not match what it matches on a new
matcher. -/
theorem template_decides_wildcard :
    ∃ p, Template.compileWithBudget "a*" 60 62 (MatcherConfig.mk 4 250).matchTimeout = .ok p ∧
      p.source = "a*" ∧ p.budget = (MatcherConfig.mk 4 250).matchTimeout ∧
      InTime p.budget (fun _ _ => .zero) ∧
      (((ofConfig ⟨4, 250⟩).after [.offer p]).matchesList (fun _ _ => .zero) "ab" "a*").1 =
        .ok false ∧
      ((ofConfig ⟨4, 250⟩).matchesList (fun _ _ => .zero) "ab" "a*").1 = .ok true := by
  refine ⟨_, rfl, rfl, rfl, inTime_zero _, ?_, ?_⟩
  · decide +kernel
  · decide +kernel

end AccessDecision
