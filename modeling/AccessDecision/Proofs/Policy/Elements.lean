import AccessDecision.Policy.Statement
import AccessDecision.Proofs.Pattern.Offers
import AccessDecision.Proofs.Pattern.Scan
import Mathlib.Logic.Relation

/-
  Statements element by element

  The entries of a statement are pattern lists, so a candidate is held against the
  elements of the first entry, then against those of the second, and so on. Nothing of
  the entries is seen in this but their elements in order: going from one entry to the
  next takes the matcher and the times along as going from one element to the next does.

  What is proved:
    1. `matchesEntry_eq_matchesAny` — the scan of the entries is one scan of their
       elements, with the same answer and the same matcher behind it.
    2. `verdict_eq_error` and `verdict_eq_ok` — when a statement fails without a cache,
       and what it decides if it does not.
    3. `regrouped_iff` — entries are divided in another way exactly if their elements
       are the same.
    4. `applies_by_elements` — so a statement decides by its elements alone, and
       dividing its entries in another way changes nothing.
-/

namespace AccessDecision

/-! ## Entries and their elements -/

namespace PolicyStatement

/-- A scan of the entries is one of their elements. -/
theorem matchesEntry_eq_matchesAny (clock : Clock) (candidate : String) (m : PatternMatcher)
    (entries : List String) :
    matchesEntry clock candidate m entries =
      m.matchesAny clock candidate (elementsOf entries) := by
  induction entries generalizing clock m with
  | nil => rfl
  | cons entry entries ih =>
    rw [matchesEntry, elementsOf, List.flatMap_cons, PatternMatcher.matchesAny_append,
      PatternMatcher.matchesList]
    rcases PatternMatcher.matchesAny clock candidate m (patternElements entry) with
      ⟨e | _ | _, m'⟩
    · rfl
    · exact ih _ m'
    · rfl

/-- The answer of a statement without a cache. -/
def verdict (budget : Time.Duration) (s : PolicyStatement) (action resource : String)
    (context : Context) : Except PolicyError Bool :=
  match verdictAny budget action (elementsOf s.actions) with
  | .ok true =>
    match verdictAny budget resource (elementsOf s.resources) with
    | .ok true => .ok ((ConditionSet.ofCondition s.conditions).evaluate context)
    | undecided => undecided
  | undecided => undecided

/-- An action element globs the action, a resource element globs the resource, and the
conditions hold. -/
def Covers (s : PolicyStatement) (action resource : String) (context : Context) : Prop :=
  (∃ element ∈ elementsOf s.actions, Globs element.toList action.toList) ∧
  (∃ element ∈ elementsOf s.resources, Globs element.toList resource.toList) ∧
  (ConditionSet.ofCondition s.conditions).evaluate context = true

section
variable {budget : Time.Duration} {s : PolicyStatement} {action resource : String}
  {context : Context}

/-- Over patterns as they compile now, a statement answers as without a cache. -/
theorem applies_of_standsFor {m : PatternMatcher} {clock : Clock} (hb : m.budget = budget)
    (hm : m.cache.Served (CompiledPattern.StandsFor budget)) (hclock : InTime budget clock)
    (s : PolicyStatement) (action resource : String) (context : Context) :
    (s.applies clock m action resource context).1 =
      s.verdict budget action resource context := by
  obtain ⟨haction, hb', hm'⟩ :=
    PatternMatcher.matchesAny_of_standsFor hb hm hclock action (elementsOf s.actions)
  rw [applies, verdict, matchesEntry_eq_matchesAny, ← haction]
  generalize m.matchesAny clock action (elementsOf s.actions) = scanned at hb' hm' ⊢
  obtain ⟨e | _ | _, m'⟩ := scanned
  · rfl
  · rfl
  -- The resources are scanned with the matcher and the times that the actions leave.
  · have hresource := (PatternMatcher.matchesAny_of_standsFor hb' hm'
      (hclock.drop (elementsOf s.actions).length) resource (elementsOf s.resources)).1
    simp only [matchesEntry_eq_matchesAny, ← hresource]
    rcases m'.matchesAny (clock.drop (elementsOf s.actions).length) resource
      (elementsOf s.resources) with ⟨e | _ | _, m''⟩ <;> rfl

theorem verdict_eq_error {e : PolicyError} :
    s.verdict budget action resource context = .error e ↔
      ComesTo budget action (elementsOf s.actions) (Uncompilable budget · e) ∨
        ComesTo budget action (elementsOf s.actions) (Fits budget action) ∧
          ComesTo budget resource (elementsOf s.resources) (Uncompilable budget · e) := by
  rw [← verdictAny_eq_error, ← verdictAny_eq_true, ← verdictAny_eq_error, verdict]
  rcases verdictAny budget action (elementsOf s.actions) with e | _ | _
  · simp
  · simp
  · rcases verdictAny budget resource (elementsOf s.resources) with e | _ | _ <;> simp

/-- A statement that does not fail applies to what it covers. -/
theorem verdict_eq_ok {applied : Bool}
    (h : s.verdict budget action resource context = .ok applied) :
    applied = true ↔ s.Covers action resource context := by
  rw [verdict] at h
  rcases hactions : verdictAny budget action (elementsOf s.actions) with e | matched
  · simp only [hactions, reduceCtorEq] at h
  rw [Covers, ← globbed_of_verdictAny hactions]
  cases matched with
  | false =>
    simp only [hactions, Except.ok.injEq] at h
    simp [← h]
  | true =>
    simp only [hactions] at h
    rcases hresources : verdictAny budget resource (elementsOf s.resources) with e | matched
    · simp only [hresources, reduceCtorEq] at h
    rw [← globbed_of_verdictAny hresources]
    cases matched with
    | false | true =>
      simp only [hresources, Except.ok.injEq] at h
      simp [← h]

end

end PolicyStatement

/-! ## Dividing entries in another way -/

theorem patternElements_injective : Function.Injective patternElements := by
  intro patterns patterns' h
  have hfields : Text.fields patternSeparator patterns.toList =
      Text.fields patternSeparator patterns'.toList :=
    List.map_injective_iff.mpr (fun _ _ => String.ofList_injective) h
  have htexts := congrArg (Text.joinFields patternSeparator) hfields
  rw [Text.joinFields_fields, Text.joinFields_fields] at htexts
  exact String.toList_inj.mp htexts

/-- Two neighbouring entries become one, with a separator between them. -/
inductive EntriesJoined : List String → List String → Prop where
  | mk (before : List String) (p q : String) (after : List String) :
    EntriesJoined (before ++ p :: q :: after)
      (before ++ String.ofList (p.toList ++ patternSeparator :: q.toList) :: after)

/-- Entries are joined, and divided at their separators, any number of times. -/
def Regrouped : List String → List String → Prop := Relation.EqvGen EntriesJoined

theorem elementsOf_regrouped {entries entries' : List String} (h : Regrouped entries entries') :
    elementsOf entries = elementsOf entries' := by
  induction h with
  | rel entries entries' hjoined =>
    obtain ⟨before, p, q, after⟩ := hjoined
    simp only [elementsOf, List.flatMap_append, List.flatMap_cons, patternElements,
      String.toList_ofList, Text.fields_append_sep, List.map_append, List.append_assoc]
  | refl entries => rfl
  | symm entries entries' _ ih => exact ih.symm
  | trans entries entries' entries'' _ _ ih ih' => exact ih.trans ih'

theorem exists_regrouped_singleton (entry : String) (entries : List String) :
    ∃ text, Regrouped (entry :: entries) [text] := by
  induction entries generalizing entry with
  | nil => exact ⟨entry, .refl _⟩
  | cons next rest ih =>
    obtain ⟨text, htext⟩ := ih (String.ofList (entry.toList ++ patternSeparator :: next.toList))
    exact ⟨text, .trans _ _ _ (.rel _ _ (.mk [] entry next rest)) htext⟩

/-- Entries are divided in another way exactly if they have the same elements. -/
theorem regrouped_iff {entries entries' : List String} (hne : entries ≠ [])
    (hne' : entries' ≠ []) :
    Regrouped entries entries' ↔ elementsOf entries = elementsOf entries' := by
  refine ⟨elementsOf_regrouped, fun h => ?_⟩
  obtain ⟨entry, rest, rfl⟩ := List.exists_cons_of_ne_nil hne
  obtain ⟨entry', rest', rfl⟩ := List.exists_cons_of_ne_nil hne'
  -- Both are joined to one entry each, which its elements determine.
  obtain ⟨text, htext⟩ := exists_regrouped_singleton entry rest
  obtain ⟨text', htext'⟩ := exists_regrouped_singleton entry' rest'
  rw [elementsOf_regrouped htext, elementsOf_regrouped htext'] at h
  obtain rfl : text = text' := patternElements_injective (by simpa [elementsOf] using h)
  exact .trans _ _ _ htext (.symm _ _ htext')

namespace PolicyStatement

/-- A statement sees nothing of its entries but their elements. -/
theorem applies_regrouped {s s' : PolicyStatement} (hactions : Regrouped s.actions s'.actions)
    (hresources : Regrouped s.resources s'.resources) (hconditions : s'.conditions = s.conditions)
    (clock : Clock) (m : PatternMatcher) (action resource : String) (context : Context) :
    s'.applies clock m action resource context = s.applies clock m action resource context := by
  simp only [applies, matchesEntry_eq_matchesAny, elementsOf_regrouped hactions,
    elementsOf_regrouped hresources, hconditions]

/-- What a statement answers on a matcher whose cache holds nothing but what calls have
put there, as long as evaluations end in time. It fails with the first element that does
not compile, if a scan comes to it, and else decides by what its elements glob. Without
actions it never applies, and without resources it does not either, though it may
fail. How the elements are divided into entries makes no difference, neither to the
answer nor to the matcher behind it. -/
theorem applies_by_elements (config : MatcherConfig) {ops : List Operation}
    (hops : ∀ p, .offer p ∉ ops) {clock : Clock} (hclock : InTime config.matchTimeout clock)
    (s : PolicyStatement) (action resource : String) (context : Context) :
    let m := (PatternMatcher.ofConfig config).after ops
    let budget := config.matchTimeout
    let answer := (s.applies clock m action resource context).1
    (∀ e, answer = .error e ↔
      ComesTo budget action (elementsOf s.actions) (Uncompilable budget · e) ∨
        ComesTo budget action (elementsOf s.actions) (Fits budget action) ∧
          ComesTo budget resource (elementsOf s.resources) (Uncompilable budget · e)) ∧
    ((∀ e, answer ≠ .error e) →
      (answer = .ok true ↔ s.Covers action resource context) ∧
      (answer = .ok false ↔ ¬ s.Covers action resource context)) ∧
    (s.actions = [] → answer = .ok false) ∧
    (s.resources = [] → answer ≠ .ok true) ∧
    ∀ s' : PolicyStatement, Regrouped s.actions s'.actions → Regrouped s.resources s'.resources →
      s'.conditions = s.conditions →
        s'.applies clock m action resource context =
          s.applies clock m action resource context := by
  intro m budget answer
  have hanswer : answer = s.verdict budget action resource context :=
    applies_of_standsFor (PatternMatcher.budget_after _ ops)
      (PatternMatcher.standsFor_after config hops) hclock s action resource context
  have hempty (candidate : String) {entries : List String} (h : entries = []) :
      verdictAny budget candidate (elementsOf entries) = .ok false := by
    rw [h]
    rfl
  refine ⟨fun e => by rw [hanswer, verdict_eq_error], fun hok => ?_, fun h => ?_, fun h => ?_,
    fun s' hactions hresources hconditions =>
      applies_regrouped hactions hresources hconditions clock m action resource context⟩
  · cases hverdict : answer with
    | error e => exact absurd hverdict (hok e)
    | ok applied =>
      have hcovers := verdict_eq_ok (hanswer.symm.trans hverdict)
      simp only [Except.ok.injEq]
      refine ⟨hcovers, ?_⟩
      rw [← hcovers, Bool.not_eq_true]
  · rw [hanswer, verdict, hempty action h]
  · rw [hanswer, verdict, hempty resource h]
    rcases verdictAny budget action (elementsOf s.actions) with e | _ | _ <;> simp

/-- Two elements, once in one entry and once in an entry each. -/
theorem divided_entry_applies :
    let ops : List Operation := [.call (.matchesList "ecs:Stop" "ecs:*") fun _ _ => .zero]
    let m := (PatternMatcher.ofConfig ⟨4, 250⟩).after ops
    let clock : Clock := fun _ _ => .zero
    let joined := ofLists .allow ["oss:*,ecs:Describe*"] ["acs:ecs:*"]
    let divided := ofLists .allow ["oss:*", "ecs:Describe*"] ["acs:ecs:*"]
    (∀ p, .offer p ∉ ops) ∧ InTime (MatcherConfig.mk 4 250).matchTimeout clock ∧
      (joined.applies clock m "ecs:DescribeImages" "acs:ecs:1" .empty).1 = .ok true ∧
      divided.applies clock m "ecs:DescribeImages" "acs:ecs:1" .empty =
        joined.applies clock m "ecs:DescribeImages" "acs:ecs:1" .empty := by
  intro ops m clock joined divided
  have hops : ∀ p, .offer p ∉ ops := by simp [ops]
  have hclock : InTime (MatcherConfig.mk 4 250).matchTimeout clock := inTime_zero _
  have hactions : Regrouped joined.actions divided.actions :=
    .symm _ _ (.rel _ _ (.mk [] "oss:*" "ecs:Describe*" []))
  obtain ⟨-, -, -, -, hregrouped⟩ := applies_by_elements ⟨4, 250⟩ hops hclock joined
    "ecs:DescribeImages" "acs:ecs:1" .empty
  exact ⟨hops, hclock, by decide +kernel, hregrouped divided hactions (.refl _) rfl⟩

end PolicyStatement

end AccessDecision
