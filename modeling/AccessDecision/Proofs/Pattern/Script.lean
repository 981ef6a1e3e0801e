import AccessDecision.Pattern.Matcher
import AccessDecision.Proofs.Pattern.Cache

/-
  Calls of a matcher, step by step

  A call touches the cache in steps of its own: it looks a text up, compiles,
  offers what it compiled, evaluates. Other callers may use the cache between two
  of them. `Script` is what a call has still to do, as a tree that branches on
  each reply, and every call of a matcher is written as one. An evaluation says
  which of the times of a clock is its own: that of its element.

  What is proved:
    1. `perform_advance` — carrying a script through is taking its steps one after
       another.
    2. `compiled_eq_perform`, `matchesOne_eq_perform`, `matchesList_eq_perform` and
       `mustMatch_eq_perform` — a script carried through without a break is the
       call it was written for.
-/

namespace AccessDecision

@[simp] theorem Clock.drop_zero (clock : Clock) : clock.drop 0 = clock := rfl

@[simp] theorem Clock.drop_apply_zero (clock : Clock) (n : Nat) : clock.drop n 0 = clock n :=
  congrArg clock (Nat.zero_add n)

theorem Clock.drop_drop (clock : Clock) (a b : Nat) :
    (clock.drop a).drop b = clock.drop (a + b) := by
  funext i
  rw [drop, drop, drop, Nat.add_comm a b, Nat.add_assoc]

/-- A verdict where an error is no match. -/
def failClosed : Except PolicyError Bool → Bool
  | .ok matched => matched
  | .error _ => false

/-- What a call has still to do before it gives its answer. -/
inductive Script (α : Type) where
  | done (answer : α)
  | get (key : String) (next : Option CompiledPattern → Script α)
  | compile (pattern : String) (next : Except PolicyError CompiledPattern → Script α)
  | offer (p : CompiledPattern) (next : CompiledPattern → Script α)
  | evaluate (n : Nat) (p : CompiledPattern) (candidate : String)
    (next : Except PolicyError Bool → Script α)

namespace Script

variable {α β : Type}

/-- One script after another. -/
def bind : Script α → (α → Script β) → Script β
  | done a, f => f a
  | get key next, f => get key fun r => (next r).bind f
  | compile pattern next, f => compile pattern fun r => (next r).bind f
  | offer p next, f => offer p fun r => (next r).bind f
  | evaluate n p candidate next, f => evaluate n p candidate fun r => (next r).bind f

/-! ## The calls -/

/-- Fetches a compiled pattern. Lookup and offer are steps of their own. -/
def compiled (pattern : String) : Script (Except PolicyError CompiledPattern) :=
  get pattern fun
    | some hit => done (.ok hit)
    | none => compile pattern fun
      | .error e => done (.error e)
      | .ok p => offer p fun stored => done (.ok stored)

/-- Matches one element, in the `n`-th time. -/
def matchesOne (n : Nat) (candidate pattern : String) : Script (Except PolicyError Bool) :=
  if isWildcard pattern then
    (compiled pattern).bind fun
      | .error e => done (.error e)
      | .ok p => evaluate n p candidate done
  else done (.ok (pattern == candidate))

/-- Matches some elements, the first in the `n`-th time. -/
def matchesAny (candidate : String) (n : Nat) : List String → Script (Except PolicyError Bool)
  | [] => done (.ok false)
  | pattern :: rest =>
    (matchesOne n candidate pattern).bind fun
      | .ok false => matchesAny candidate (n + 1) rest
      | decided => done decided

/-- Matches a pattern list. -/
def matchesList (candidate patterns : String) : Script (Except PolicyError Bool) :=
  matchesAny candidate 0 (patternElements patterns)

/-- Matches a pattern list, where an error is no match. -/
def mustMatch (candidate patterns : String) : Script Bool :=
  (matchesList candidate patterns).bind fun r => done (failClosed r)

/-! ## Carrying a script through -/

/-- One step of a script on a matcher. A script that is done stays as it is. -/
def advance (clock : Clock) (m : PatternMatcher) : Script α → Script α × PatternMatcher
  | done a => (done a, m)
  | get key next => (next (m.cache.get? key).1, { m with cache := (m.cache.get? key).2 })
  | compile pattern next => (next (CompiledPattern.wildcard pattern m.budget), m)
  | offer p next => (next (m.cache.getOrInsert p).1, { m with cache := (m.cache.getOrInsert p).2 })
  | evaluate n p candidate next => (next (p.isMatch (clock.drop n) candidate), m)

/-- The answer of a script and the matcher after it, if no other step comes
between. -/
def perform (clock : Clock) : Script α → PatternMatcher → α × PatternMatcher
  | done a, m => (a, m)
  | get key next, m =>
    (next (m.cache.get? key).1).perform clock { m with cache := (m.cache.get? key).2 }
  | compile pattern next, m => (next (CompiledPattern.wildcard pattern m.budget)).perform clock m
  | offer p next, m =>
    (next (m.cache.getOrInsert p).1).perform clock { m with cache := (m.cache.getOrInsert p).2 }
  | evaluate n p candidate next, m =>
    (next (p.isMatch (clock.drop n) candidate)).perform clock m

/-- A step does not change what the script as a whole comes to. -/
theorem perform_advance (clock : Clock) (m : PatternMatcher) (s : Script α) :
    (s.advance clock m).1.perform clock (s.advance clock m).2 = s.perform clock m := by
  cases s <;> rfl

theorem perform_bind (clock : Clock) (s : Script α) (f : α → Script β) (m : PatternMatcher) :
    (s.bind f).perform clock m = (f (s.perform clock m).1).perform clock (s.perform clock m).2 := by
  induction s generalizing m with
  | done a => rfl
  | get key next ih => exact ih _ _
  | compile pattern next ih => exact ih _ _
  | offer p next ih => exact ih _ _
  | evaluate n p candidate next ih => exact ih _ _

@[simp] theorem budget_advance (clock : Clock) (m : PatternMatcher) (s : Script α) :
    (s.advance clock m).2.budget = m.budget := by
  cases s <;> rfl

@[simp] theorem capacity_advance (clock : Clock) (m : PatternMatcher) (s : Script α) :
    (s.advance clock m).2.cache.capacity = m.cache.capacity := by
  cases s with
  | get key next => exact PatternCache.capacity_get? m.cache key
  | offer p next => exact PatternCache.capacity_getOrInsert m.cache p
  | done a | compile pattern next | evaluate n p candidate next => rfl

theorem tidy_advance (clock : Clock) (m : PatternMatcher) (s : Script α) (hm : m.cache.Tidy) :
    (s.advance clock m).2.cache.Tidy := by
  cases s with
  | get key next => exact PatternCache.tidy_get? hm key
  | offer p next => exact PatternCache.tidy_getOrInsert hm p
  | done a | compile pattern next | evaluate n p candidate next => exact hm

theorem budget_perform (clock : Clock) (m : PatternMatcher) (s : Script α) :
    (s.perform clock m).2.budget = m.budget := by
  induction s generalizing m with
  | done a => rfl
  | get key next ih | compile pattern next ih | offer p next ih | evaluate n p candidate next ih =>
    rw [← perform_advance]
    exact (ih _ _).trans (budget_advance clock m _)

theorem tidy_perform (clock : Clock) (m : PatternMatcher) (s : Script α) (hm : m.cache.Tidy) :
    (s.perform clock m).2.cache.Tidy := by
  induction s generalizing m with
  | done a => exact hm
  | get key next ih | compile pattern next ih | offer p next ih | evaluate n p candidate next ih =>
    rw [← perform_advance]
    exact ih _ _ (tidy_advance clock m _ hm)

/-! ## The calls are their scripts -/

theorem compiled_eq_perform (clock : Clock) (m : PatternMatcher) (pattern : String) :
    m.compiled pattern = (compiled pattern).perform clock m := by
  simp only [PatternMatcher.compiled, compiled, perform]
  rcases m.cache.get? pattern with ⟨_ | hit, cache⟩
  · simp only [perform]
    cases CompiledPattern.wildcard pattern m.budget <;> rfl
  · rfl

theorem matchesOne_eq_perform (clock : Clock) (m : PatternMatcher) (n : Nat)
    (candidate pattern : String) :
    m.matchesOne (clock.drop n) candidate pattern =
      (matchesOne n candidate pattern).perform clock m := by
  rw [PatternMatcher.matchesOne, matchesOne]
  split
  · rw [perform_bind, ← compiled_eq_perform]
    rcases m.compiled pattern with ⟨_ | p, m'⟩ <;> rfl
  · rfl

theorem matchesAny_eq_perform (clock : Clock) (candidate : String) (n : Nat)
    (patterns : List String) (m : PatternMatcher) :
    PatternMatcher.matchesAny (clock.drop n) candidate m patterns =
      (matchesAny candidate n patterns).perform clock m := by
  induction patterns generalizing n m with
  | nil => rfl
  | cons pattern rest ih =>
    rw [PatternMatcher.matchesAny, matchesAny, perform_bind, ← matchesOne_eq_perform,
      Clock.drop_drop]
    rcases m.matchesOne (clock.drop n) candidate pattern with ⟨_ | _ | _, m'⟩
    · rfl
    · exact ih (n + 1) m'
    · rfl

theorem matchesList_eq_perform (clock : Clock) (m : PatternMatcher) (candidate patterns : String) :
    m.matchesList clock candidate patterns = (matchesList candidate patterns).perform clock m :=
  matchesAny_eq_perform clock candidate 0 (patternElements patterns) m

theorem mustMatch_eq_perform (clock : Clock) (m : PatternMatcher) (candidate patterns : String) :
    m.mustMatch clock candidate patterns = (mustMatch candidate patterns).perform clock m := by
  rw [PatternMatcher.mustMatch, mustMatch, perform_bind, ← matchesList_eq_perform]
  rcases m.matchesList clock candidate patterns with ⟨_ | _, m'⟩ <;> rfl

end Script

/-! ## Calls as values -/

/-- A call of a matcher. -/
inductive Call where
  | compiled (pattern : String)
  | matchesOne (candidate pattern : String)
  | matchesList (candidate patterns : String)
  | mustMatch (candidate patterns : String)

/-- What a call gives back. -/
inductive Answer where
  | compiled (r : Except PolicyError CompiledPattern)
  | verdict (r : Except PolicyError Bool)
  | matched (b : Bool)

namespace Call

/-- Makes a call on a matcher that nobody else uses. -/
def perform (clock : Clock) (m : PatternMatcher) : Call → Answer × PatternMatcher
  | compiled pattern => (m.compiled pattern).map .compiled id
  | matchesOne candidate pattern => (m.matchesOne clock candidate pattern).map .verdict id
  | matchesList candidate patterns => (m.matchesList clock candidate patterns).map .verdict id
  | mustMatch candidate patterns => (m.mustMatch clock candidate patterns).map .matched id

/-- The steps of a call. -/
def script : Call → Script Answer
  | compiled pattern => (Script.compiled pattern).bind fun r => .done (.compiled r)
  | matchesOne candidate pattern =>
    (Script.matchesOne 0 candidate pattern).bind fun r => .done (.verdict r)
  | matchesList candidate patterns =>
    (Script.matchesList candidate patterns).bind fun r => .done (.verdict r)
  | mustMatch candidate patterns =>
    (Script.mustMatch candidate patterns).bind fun b => .done (.matched b)

/-- A script carried through is the call. -/
theorem perform_eq_script (clock : Clock) (m : PatternMatcher) (call : Call) :
    call.perform clock m = call.script.perform clock m := by
  cases call with
  | compiled pattern =>
    rw [perform, script, Script.perform_bind, ← Script.compiled_eq_perform]
    rfl
  | matchesOne candidate pattern =>
    rw [perform, script, Script.perform_bind, ← Script.matchesOne_eq_perform, Clock.drop_zero]
    rfl
  | matchesList candidate patterns =>
    rw [perform, script, Script.perform_bind, ← Script.matchesList_eq_perform]
    rfl
  | mustMatch candidate patterns =>
    rw [perform, script, Script.perform_bind, ← Script.mustMatch_eq_perform]
    rfl

end Call

end AccessDecision
