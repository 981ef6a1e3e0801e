import AccessDecision.Proofs.Pattern.Verdict

/-
  Scans

  A candidate is held against elements from the first one on, until one decides: a
  wildcard that does not compile, or an element that the candidate fits. Said without
  cache and expressions, a scan passes by elements that compile and do not glob the
  candidate, and may come to one that is not so.

  What is proved:
    1. `verdictOne_cases` — an element by itself fails if it does not compile, and
       else decides by what it globs.
    2. `verdictAny_eq_error`, `verdictAny_eq_true` and `verdictAny_eq_false` — what a
       scan answers, by the element that it comes to.
    3. `matchesAny_append` — scans one behind the other are one scan.
-/

namespace AccessDecision

/-! ## What a scan meets -/

/-- A wildcard that does not compile, with the error that it gives. -/
def Uncompilable (budget : Time.Duration) (element : String) (e : PolicyError) : Prop :=
  isWildcard element = true ∧ CompiledPattern.wildcard element budget = .error e

/-- An element that does not fail and that a candidate fits. -/
def Fits (budget : Time.Duration) (candidate element : String) : Prop :=
  (∀ e, ¬ Uncompilable budget element e) ∧ Globs element.toList candidate.toList

/-- An element that does not fail and that a candidate does not fit. -/
def PassedBy (budget : Time.Duration) (candidate element : String) : Prop :=
  (∀ e, ¬ Uncompilable budget element e) ∧ ¬ Globs element.toList candidate.toList

/-- A scan of some elements for a candidate comes to one with a property: it passes by
all that stand before it. -/
def ComesTo (budget : Time.Duration) (candidate : String) (elements : List String)
    (P : String → Prop) : Prop :=
  ∃ before element after, elements = before ++ element :: after ∧
    (∀ passed ∈ before, PassedBy budget candidate passed) ∧ P element

section
variable {budget : Time.Duration} {candidate element : String} {elements : List String}

theorem comesTo_nil {P : String → Prop} : ¬ ComesTo budget candidate [] P := by
  intro h
  obtain ⟨before, element, after, h, _⟩ := h
  cases before <;> cases h

theorem comesTo_cons {P : String → Prop} :
    ComesTo budget candidate (element :: elements) P ↔
      P element ∨ PassedBy budget candidate element ∧ ComesTo budget candidate elements P := by
  constructor
  · intro h
    obtain ⟨before, found, after, heq, hpassed, hfound⟩ := h
    cases before with
    | nil =>
      obtain ⟨rfl, rfl⟩ := List.cons.inj heq
      exact .inl hfound
    | cons first before =>
      obtain ⟨rfl, rfl⟩ := List.cons.inj heq
      rw [List.forall_mem_cons] at hpassed
      exact .inr ⟨hpassed.1, before, found, after, rfl, hpassed.2, hfound⟩
  · intro h
    rcases h with h | ⟨hfirst, before, found, after, rfl, hpassed, hfound⟩
    · exact ⟨[], element, elements, rfl, nofun, h⟩
    · exact ⟨element :: before, found, after, rfl, List.forall_mem_cons.mpr ⟨hfirst, hpassed⟩,
        hfound⟩

/-! ## Verdicts -/

/-- An element either fails or decides by what it globs. -/
theorem verdictOne_cases (budget : Time.Duration) (candidate element : String) :
    (∃ e, Uncompilable budget element e ∧ verdictOne budget candidate element = .error e) ∨
      (∀ e, ¬ Uncompilable budget element e) ∧
        ∃ matched, verdictOne budget candidate element = .ok matched ∧
          (matched = true ↔ Globs element.toList candidate.toList) := by
  by_cases hwild : isWildcard element = true
  · rw [verdictOne, if_pos hwild, CompiledPattern.wildcard_eq]
    -- Whether a wildcard compiles is a matter of its size alone.
    split
    · rename_i hfits
      refine .inr ⟨fun e he => ?_, _, rfl, CompiledPattern.isMatch_wildcardExpr _ candidate⟩
      have hwildcard := he.2
      rw [CompiledPattern.wildcard_eq, if_pos hfits] at hwildcard
      cases hwildcard
    · rename_i hbig
      exact .inl ⟨_, ⟨hwild, by rw [CompiledPattern.wildcard_eq, if_neg hbig]⟩, rfl⟩
  · have hstar : wildcardChar ∉ element.toList := by simpa [isWildcard] using hwild
    rw [verdictOne, if_neg hwild, globs_of_not_mem hstar, String.toList_inj]
    exact .inr ⟨fun e he => hwild he.1, _, rfl, beq_iff_eq⟩

theorem verdictOne_eq_error {e : PolicyError} :
    verdictOne budget candidate element = .error e ↔ Uncompilable budget element e := by
  rcases verdictOne_cases budget candidate element with
    ⟨e', he', hverdict⟩ | ⟨hcompiles, matched, hverdict, _⟩
  · rw [hverdict, Except.error.injEq]
    constructor
    · rintro rfl
      exact he'
    · intro he
      exact Except.error.inj (he'.2.symm.trans he.2)
  · simp [hverdict, hcompiles e]

theorem verdictOne_eq_true :
    verdictOne budget candidate element = .ok true ↔ Fits budget candidate element := by
  rcases verdictOne_cases budget candidate element with
    ⟨e, he, hverdict⟩ | ⟨hcompiles, matched, hverdict, hglobs⟩
  · simp only [hverdict, reduceCtorEq, Fits, false_iff]
    exact fun hfits => hfits.1 e he
  · simp [hverdict, Fits, hcompiles, hglobs]

theorem verdictOne_eq_false :
    verdictOne budget candidate element = .ok false ↔ PassedBy budget candidate element := by
  rcases verdictOne_cases budget candidate element with
    ⟨e, he, hverdict⟩ | ⟨hcompiles, matched, hverdict, hglobs⟩
  · simp only [hverdict, reduceCtorEq, PassedBy, false_iff]
    exact fun hpassed => hpassed.1 e he
  · simp [hverdict, PassedBy, hcompiles, ← hglobs]

/-- A scan that does not go past its last element answers what the element answers that
it comes to. -/
theorem verdictAny_eq_iff {v : Except PolicyError Bool} (hv : v ≠ .ok false) :
    verdictAny budget candidate elements = v ↔
      ComesTo budget candidate elements (verdictOne budget candidate · = v) := by
  induction elements with
  | nil => exact ⟨fun h => absurd h.symm hv, fun h => absurd h comesTo_nil⟩
  | cons first rest ih =>
    rw [verdictAny, comesTo_cons, ← ih, ← verdictOne_eq_false]
    -- Only a verdict of no match leaves the scan to the rest.
    rcases verdictOne budget candidate first with e | _ | _
    · simp
    · simp [hv.symm]
    · simp

theorem verdictAny_eq_error {e : PolicyError} :
    verdictAny budget candidate elements = .error e ↔
      ComesTo budget candidate elements (Uncompilable budget · e) := by
  simp only [verdictAny_eq_iff (v := .error e) nofun, verdictOne_eq_error]

theorem verdictAny_eq_true :
    verdictAny budget candidate elements = .ok true ↔
      ComesTo budget candidate elements (Fits budget candidate) := by
  rw [verdictAny_eq_iff (by simp)]
  simp only [verdictOne_eq_true]

/-- A scan goes past its last element if it passes by all of them. -/
theorem verdictAny_eq_false :
    verdictAny budget candidate elements = .ok false ↔
      ∀ element ∈ elements, PassedBy budget candidate element := by
  induction elements with
  | nil => exact ⟨fun _ => nofun, fun _ => rfl⟩
  | cons first rest ih =>
    rw [List.forall_mem_cons, verdictAny, ← ih, ← verdictOne_eq_false]
    rcases verdictOne budget candidate first with e | _ | _
    · simp
    · simp
    · simp

/-- A scan that does not fail finds whether the candidate is globbed at all. -/
theorem globbed_of_verdictAny {matched : Bool}
    (h : verdictAny budget candidate elements = .ok matched) :
    matched = true ↔ ∃ element ∈ elements, Globs element.toList candidate.toList := by
  cases matched with
  | true =>
    obtain ⟨before, element, after, rfl, _, hfits⟩ := verdictAny_eq_true.mp h
    exact iff_of_true rfl ⟨element, by simp, hfits.2⟩
  | false =>
    have hpassed := verdictAny_eq_false.mp h
    refine iff_of_false Bool.false_ne_true fun hglobbed => ?_
    obtain ⟨element, helement, hglobs⟩ := hglobbed
    exact (hpassed element helement).2 hglobs

end

namespace PatternMatcher

/-- A scan of more elements goes on with the matcher and the times that the first ones
leave. -/
theorem matchesAny_append (clock : Clock) (candidate : String) (m : PatternMatcher)
    (front back : List String) :
    matchesAny clock candidate m (front ++ back) =
      match matchesAny clock candidate m front with
      | (.ok false, m) => matchesAny (clock.drop front.length) candidate m back
      | decided => decided := by
  induction front generalizing clock m with
  | nil => rfl
  | cons first front ih =>
    rw [List.cons_append, matchesAny, matchesAny, List.length_cons, Nat.add_comm,
      ← Clock.drop_drop]
    rcases m.matchesOne clock candidate first with ⟨e | _ | _, m'⟩
    · rfl
    · exact ih (clock.drop 1) m'
    · rfl

end PatternMatcher

end AccessDecision
