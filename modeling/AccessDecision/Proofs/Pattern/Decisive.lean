import AccessDecision.Proofs.Pattern.Offers
import AccessDecision.Proofs.Pattern.Scan

/-
  The element that decides

  A scan matches one element after the other, each in the state that those before it
  left and in a time of its own, and stops at the first result that is not "no match"
  (`decisive`): a match, a wildcard that does not compile, or an evaluation that took too
  long. So an error hides every later match, and a match every later error. The times of
  the same wildcard have nothing to do with each other: it may be passed by once and take
  too long the next time.

  What is proved:
    1. `patternElements_eq_iff` — splitting a pattern list undoes joining its elements,
       empty ones included.
    2. `matchesAny_eq` — a scan answers what its first decisive element answers, and
       leaves what the elements up to there leave.
    3. `first_decisive_element_decides` — what a call answers on any matcher, and that
       a matcher which filled its cache by itself finds whether an element globs the
       candidate.
-/

namespace AccessDecision

/-! ## Pattern lists -/

/-- The pattern list of some elements. -/
def joinElements (elements : List String) : String :=
  String.ofList (Text.joinFields patternSeparator (elements.map String.toList))

theorem joinElements_patternElements (patterns : String) :
    joinElements (patternElements patterns) = patterns := by
  have hchars : (patternElements patterns).map String.toList =
      Text.fields patternSeparator patterns.toList := by
    rw [patternElements, List.map_map]
    simp [Function.comp_def]
  rw [joinElements, hchars, Text.joinFields_fields, String.ofList_toList]

theorem patternElements_joinElements {elements : List String} (hne : elements ≠ [])
    (helements : ∀ element ∈ elements, patternSeparator ∉ element.toList) :
    patternElements (joinElements elements) = elements := by
  have hfields : Text.fields patternSeparator
      (Text.joinFields patternSeparator (elements.map String.toList)) =
        elements.map String.toList := by
    apply Text.fields_joinFields
    · simpa using hne
    · simpa using helements
  rw [patternElements, joinElements, String.toList_ofList, hfields, List.map_map]
  simp [Function.comp_def]

/-- The elements of a pattern list are the only texts without the separator, at least
one of them, that it is joined from. -/
theorem patternElements_eq_iff {patterns : String} {elements : List String} :
    patternElements patterns = elements ↔
      elements ≠ [] ∧ (∀ element ∈ elements, patternSeparator ∉ element.toList) ∧
        joinElements elements = patterns := by
  constructor
  · rintro rfl
    have hne : patternElements patterns ≠ [] := by
      simpa [patternElements] using Text.fields_ne_nil patternSeparator patterns.toList
    exact ⟨hne, fun _ => PatternMatcher.mem_patternElements,
      joinElements_patternElements patterns⟩
  · intro h
    obtain ⟨hne, helements, rfl⟩ := h
    exact patternElements_joinElements hne helements

namespace PatternMatcher

variable (clock : Clock) (candidate : String) (m : PatternMatcher)

/-! ## Elements one after the other -/

/-- A wildcard is decided by its pattern, anything else by itself. -/
theorem matchesOne_fst (element : String) :
    (m.matchesOne clock candidate element).1 =
      if isWildcard element then
        (m.compiled element).1.bind fun p => p.isMatch clock candidate
      else .ok (element == candidate) := by
  rw [matchesOne]
  split
  · rcases m.compiled element with ⟨e | p, m'⟩ <;> rfl
  · rfl

theorem isMatch_eq_error {p : CompiledPattern} {e : PolicyError} :
    p.isMatch clock candidate = .error e ↔
      ¬ clock 0 p ≤ p.budget ∧ e = .matchTimeout p.source (clock 0 p) p.budget := by
  rw [CompiledPattern.isMatch, CompiledPattern.checkBudget]
  split
  · rename_i hintime
    simp [Except.map, hintime]
  · rename_i hlate
    simp [Except.map, hlate, eq_comm]

/-- An element fails if it is a wildcard that does not compile, or whose evaluation
takes too long. -/
theorem matchesOne_eq_error (n : Nat) {element : String} {e : PolicyError} :
    (m.matchesOne (clock.drop n) candidate element).1 = .error e ↔
      isWildcard element = true ∧
        ((m.compiled element).1 = .error e ∨
          ∃ p, (m.compiled element).1 = .ok p ∧ ¬ clock n p ≤ p.budget ∧
            e = .matchTimeout p.source (clock n p) p.budget) := by
  rw [matchesOne_fst]
  by_cases hwild : isWildcard element = true
  · rw [if_pos hwild]
    cases (m.compiled element).1 with
    | error e' => simp [Except.bind, hwild]
    | ok p => simp [Except.bind, hwild, isMatch_eq_error]
  · simp [hwild]

/-- The matcher that some elements leave if each of them is matched, in its own time. -/
def afterElements (clock : Clock) (candidate : String) (m : PatternMatcher) :
    List String → PatternMatcher
  | [] => m
  | element :: rest =>
    afterElements (clock.drop 1) candidate (m.matchesOne clock candidate element).2 rest

/-- The results of some elements, each in its own time and in the state that those before
it left. -/
def results (clock : Clock) (candidate : String) (m : PatternMatcher) :
    List String → List (Except PolicyError Bool)
  | [] => []
  | element :: rest =>
    (m.matchesOne clock candidate element).1 ::
      results (clock.drop 1) candidate (m.matchesOne clock candidate element).2 rest

/-- Whether a scan stops at a result. -/
def decisive : Except PolicyError Bool → Bool
  | .ok false => false
  | .ok true | .error _ => true

theorem decisive_eq_false {r : Except PolicyError Bool} : decisive r = false ↔ r = .ok false := by
  rcases r with e | _ | _ <;> simp [decisive]

/-- One more element takes one more time. -/
theorem drop_length_cons (element : String) (before : List String) :
    clock.drop (element :: before).length = (clock.drop 1).drop before.length := by
  rw [List.length_cons, Nat.add_comm, Clock.drop_drop]

/-- A scan answers what the first decisive element answers, and leaves what the
elements up to there leave. -/
theorem matchesAny_eq (elements : List String) :
    matchesAny clock candidate m elements =
      (((results clock candidate m elements).find? decisive).getD (.ok false),
        afterElements clock candidate m
          (elements.take ((results clock candidate m elements).findIdx decisive + 1))) := by
  induction elements generalizing clock m with
  | nil => rfl
  | cons element rest ih =>
    rw [matchesAny, results, List.find?_cons, List.findIdx_cons, List.take_succ_cons,
      afterElements]
    rcases m.matchesOne clock candidate element with ⟨e | _ | _, m'⟩
    · rfl
    · -- A result of "no match" leaves the scan to the rest.
      exact ih (clock.drop 1) m'
    · rfl

/-- A scan that passes by some elements and then comes to a decisive one is decided
there. -/
theorem matchesAny_of_decisive {before : List String} {element : String} (rest : List String)
    (hpassed : ∀ r ∈ results clock candidate m before, r = .ok false)
    (hstops : decisive ((afterElements clock candidate m before).matchesOne
      (clock.drop before.length) candidate element).1 = true) :
    matchesAny clock candidate m (before ++ element :: rest) =
      (afterElements clock candidate m before).matchesOne (clock.drop before.length) candidate
        element := by
  -- The induction is on the elements passed by, each of which hands its state and the
  -- times behind its own on.
  induction before generalizing clock m with
  | nil =>
    show matchesAny clock candidate m (element :: rest) = m.matchesOne clock candidate element
    rw [matchesAny]
    change decisive (m.matchesOne clock candidate element).1 = true at hstops
    rcases hone : m.matchesOne clock candidate element with ⟨e | _ | _, m'⟩
    · rfl
    · rw [hone] at hstops
      cases hstops
    · rfl
  | cons first before ih =>
    rw [results, List.forall_mem_cons] at hpassed
    rw [drop_length_cons, afterElements] at hstops ⊢
    have hrest := ih (clock.drop 1) (m.matchesOne clock candidate first).2 hpassed.2 hstops
    rw [List.cons_append, matchesAny, ← hrest]
    rcases hone : m.matchesOne clock candidate first with ⟨r, m'⟩
    obtain rfl : r = .ok false := by rw [← hpassed.1, hone]
    rfl

/-- A scan either passes by all elements or comes to a decisive one. -/
theorem passes_or_decisive (elements : List String) :
    (∀ r ∈ results clock candidate m elements, r = .ok false) ∨
      ∃ before element rest, elements = before ++ element :: rest ∧
        (∀ r ∈ results clock candidate m before, r = .ok false) ∧
        decisive ((afterElements clock candidate m before).matchesOne (clock.drop before.length)
          candidate element).1 = true := by
  induction elements generalizing clock m with
  | nil => exact .inl nofun
  | cons first elements ih =>
    rw [results, List.forall_mem_cons]
    by_cases hfirst : (m.matchesOne clock candidate first).1 = .ok false
    · rcases ih (clock.drop 1) (m.matchesOne clock candidate first).2 with hpassed | hdecisive
      · exact .inl ⟨hfirst, hpassed⟩
      · obtain ⟨before, element, rest, rfl, hpassed, hstops⟩ := hdecisive
        refine .inr ⟨first :: before, element, rest, rfl, ?_, ?_⟩
        · rw [results, List.forall_mem_cons]
          exact ⟨hfirst, hpassed⟩
        · rw [drop_length_cons, afterElements]
          exact hstops
    · refine .inr ⟨[], first, elements, rfl, nofun, ?_⟩
      rw [← decisive_eq_false, Bool.not_eq_false] at hfirst
      exact hfirst

theorem matchesAny_of_passed {elements : List String}
    (hpassed : ∀ r ∈ results clock candidate m elements, r = .ok false) :
    (matchesAny clock candidate m elements).1 = .ok false := by
  have hnone : (results clock candidate m elements).find? decisive = none := by
    rw [List.find?_eq_none]
    intro r hr
    rw [hpassed r hr]
    simp [decisive]
  rw [matchesAny_eq, hnone, Option.getD_none]

/-- A scan gives a decisive answer if it comes to an element that does. -/
theorem matchesAny_eq_iff {elements : List String} {v : Except PolicyError Bool}
    (hv : v ≠ .ok false) :
    (matchesAny clock candidate m elements).1 = v ↔
      ∃ before element rest, elements = before ++ element :: rest ∧
        (∀ r ∈ results clock candidate m before, r = .ok false) ∧
        ((afterElements clock candidate m before).matchesOne (clock.drop before.length) candidate
          element).1 = v := by
  constructor
  · intro h
    rcases passes_or_decisive clock candidate m elements with hpassed | hdecisive
    · exact absurd ((matchesAny_of_passed clock candidate m hpassed).symm.trans h) hv.symm
    · obtain ⟨before, element, rest, rfl, hpassed, hstops⟩ := hdecisive
      rw [matchesAny_of_decisive clock candidate m rest hpassed hstops] at h
      exact ⟨before, element, rest, rfl, hpassed, h⟩
  · intro h
    obtain ⟨before, element, rest, rfl, hpassed, hone⟩ := h
    have hstops : decisive ((afterElements clock candidate m before).matchesOne
        (clock.drop before.length) candidate element).1 = true := by
      rw [hone, ← Bool.not_eq_false, decisive_eq_false]
      exact hv
    rw [matchesAny_of_decisive clock candidate m rest hpassed hstops, hone]

theorem matchesAny_eq_false {elements : List String} :
    (matchesAny clock candidate m elements).1 = .ok false ↔
      ∀ r ∈ results clock candidate m elements, r = .ok false := by
  refine ⟨fun h => ?_, matchesAny_of_passed clock candidate m⟩
  rcases passes_or_decisive clock candidate m elements with hpassed | hdecisive
  · exact hpassed
  · obtain ⟨before, element, rest, rfl, hpassed, hstops⟩ := hdecisive
    rw [matchesAny_of_decisive clock candidate m rest hpassed hstops, ← decisive_eq_false,
      hstops] at h
    cases h

/-! ## Calls -/

theorem mustMatch_eq_true {patterns : String} :
    (m.mustMatch clock candidate patterns).1 = true ↔
      (m.matchesList clock candidate patterns).1 = .ok true := by
  rw [mustMatch]
  rcases m.matchesList clock candidate patterns with ⟨e | matched, m'⟩ <;> simp

/-- A matcher that holds wildcards as they compile now finds whether one of some patterns
globs the candidate, if the wildcards among them compile. -/
theorem matchesList_joinElements (hm : m.cache.Served (CompiledPattern.StandsFor m.budget))
    (hclock : InTime m.budget clock) {elements : List String} (hne : elements ≠ [])
    (helements : ∀ element ∈ elements, patternSeparator ∉ element.toList)
    (hcompile : ∀ element ∈ elements, isWildcard element = true →
      ∃ p, CompiledPattern.wildcard element m.budget = .ok p) :
    ∃ matched, (m.matchesList clock candidate (joinElements elements)).1 = .ok matched ∧
      (matched = true ↔ ∃ element ∈ elements, Globs element.toList candidate.toList) := by
  have hanswer : (m.matchesList clock candidate (joinElements elements)).1 =
      verdictAny m.budget candidate elements := by
    rw [matchesList, patternElements_joinElements hne helements]
    exact (matchesAny_of_standsFor rfl hm hclock candidate elements).1
  cases hverdict : verdictAny m.budget candidate elements with
  | error e =>
    obtain ⟨before, element, rest, rfl, _, hwild, herror⟩ := verdictAny_eq_error.mp hverdict
    obtain ⟨p, hp⟩ := hcompile element (by simp) hwild
    rw [hp] at herror
    cases herror
  | ok matched => exact ⟨matched, hanswer.trans hverdict, globbed_of_verdictAny hverdict⟩

end PatternMatcher

open PatternMatcher

/-- A call splits its pattern list at the separators and answers what the first element
answers that does not answer "no match", each in its own time and in the state left by
those before it. An element fails if it is a wildcard that does not compile, or whose own
time is too long. A matcher that filled its cache by itself finds whether one of the
patterns globs the candidate, if those that are wildcards compile and no evaluation takes
too long. -/
theorem first_decisive_element_decides (clock : Clock) (candidate : String)
    (m : PatternMatcher) (patterns : String) :
    let answer := (m.matchesList clock candidate patterns).1
    (∀ elements, patternElements patterns = elements ↔
      elements ≠ [] ∧ (∀ element ∈ elements, patternSeparator ∉ element.toList) ∧
        joinElements elements = patterns) ∧
    (∀ v, v ≠ .ok false → (answer = v ↔
      ∃ before element rest, patternElements patterns = before ++ element :: rest ∧
        (∀ r ∈ results clock candidate m before, r = .ok false) ∧
        ((afterElements clock candidate m before).matchesOne (clock.drop before.length) candidate
          element).1 = v)) ∧
    (answer = .ok false ↔
      ∀ r ∈ results clock candidate m (patternElements patterns), r = .ok false) ∧
    (∀ (n : Nat) (m' : PatternMatcher) (element : String) (e : PolicyError),
      (m'.matchesOne (clock.drop n) candidate element).1 = .error e ↔
        isWildcard element = true ∧
          ((m'.compiled element).1 = .error e ∨
            ∃ p, (m'.compiled element).1 = .ok p ∧ ¬ clock n p ≤ p.budget ∧
              e = .matchTimeout p.source (clock n p) p.budget)) ∧
    ((m.mustMatch clock candidate patterns).1 = true ↔ answer = .ok true) ∧
    ∀ (config : MatcherConfig) (ops : List Operation) (elements : List String),
      m = (ofConfig config).after ops → (∀ p, .offer p ∉ ops) → InTime m.budget clock →
      elements ≠ [] → (∀ element ∈ elements, patternSeparator ∉ element.toList) →
      (∀ element ∈ elements, isWildcard element = true →
        ∃ p, CompiledPattern.wildcard element m.budget = .ok p) →
      ∃ matched, (m.matchesList clock candidate (joinElements elements)).1 = .ok matched ∧
        (matched = true ↔ ∃ element ∈ elements, Globs element.toList candidate.toList) := by
  intro answer
  refine ⟨fun _ => patternElements_eq_iff, ?_, ?_, ?_, ?_, ?_⟩
  · intro v hv
    exact matchesAny_eq_iff clock candidate m hv
  · exact matchesAny_eq_false clock candidate m
  · intro n m' element e
    exact matchesOne_eq_error clock candidate m' n
  · exact mustMatch_eq_true clock candidate m
  · rintro config ops elements rfl hops hclock hne helements hcompile
    have hserved := standsFor_after config hops
    rw [show config.matchTimeout = _ from (budget_after (ofConfig config) ops).symm] at hserved
    exact matchesList_joinElements clock candidate _ hserved hclock hne helements hcompile

/-- A matcher that has looked for `b*` before finds `a*` between empty elements. If the
evaluation of the second element takes too long, `b*` hides the match behind it, and does
so too if it has just been passed by in time. -/
theorem empty_elements_and_late_match :
    let m := (ofConfig ⟨4, 250⟩).after [.call (.matchesList "x" "b*") fun _ _ => .zero]
    let slow : Clock := fun n _ => if n = 1 then ⟨250000001⟩ else .zero
    let late : PolicyError := .matchTimeout "b*" ⟨250000001⟩ ⟨250000000⟩
    (∃ matched, (m.matchesList (fun _ _ => .zero) "abc" (joinElements ["", "a*", ""])).1 =
        .ok matched ∧
      (matched = true ↔ ∃ element ∈ ["", "a*", ""], Globs element.toList "abc".toList)) ∧
    joinElements ["", "a*", ""] = ",a*," ∧
    (m.matchesList slow "c" "a,b*,c").1 = .error late ∧
    (m.matchesOne slow "c" "b*").1 = .ok false ∧
    (m.matchesList slow "c" "b*,b*,c").1 = .error late := by
  intro m slow late
  have hsecond (first patterns : String)
      (helements : patternElements patterns = [first] ++ "b*" :: ["c"])
      (hpassed : (m.matchesOne slow "c" first).1 = .ok false)
      (hlate : ((afterElements slow "c" m [first]).matchesOne (slow.drop 1) "c" "b*").1 =
        .error late) :
      (m.matchesList slow "c" patterns).1 = .error late := by
    obtain ⟨-, hdecides, -⟩ := first_decisive_element_decides slow "c" m patterns
    exact (hdecides (.error late) nofun).mpr
      ⟨[first], "b*", ["c"], helements, List.forall_mem_singleton.mpr hpassed, hlate⟩
  refine ⟨?_, by decide +kernel, ?_, by decide +kernel, ?_⟩
  · have hclock : InTime m.budget fun _ _ => .zero := inTime_zero m.budget
    have hcompile : ∀ element ∈ ["", "a*", ""], isWildcard element = true →
        ∃ p, CompiledPattern.wildcard element m.budget = .ok p := by
      intro element helement hwild
      obtain rfl : element = "a*" := by
        simp only [List.mem_cons, List.not_mem_nil, or_false] at helement
        rcases helement with rfl | rfl | rfl
        · cases hwild
        · rfl
        · cases hwild
      exact ⟨_, rfl⟩
    obtain ⟨-, -, -, -, -, hglobs⟩ :=
      first_decisive_element_decides (fun _ _ => .zero) "abc" m ""
    exact hglobs ⟨4, 250⟩ _ ["", "a*", ""] rfl (by simp) hclock (by simp) (by decide) hcompile
  · exact hsecond "a" "a,b*,c" (by decide +kernel) (by decide +kernel) (by decide +kernel)
  · exact hsecond "b*" "b*,b*,c" (by decide +kernel) (by decide +kernel) (by decide +kernel)

end AccessDecision
