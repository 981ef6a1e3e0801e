import AccessDecision.Proofs.Pattern.Glob
import AccessDecision.Proofs.Pattern.Script

/-
  What a call comes to

  The replies of a cache differ from one run to the next, but as long as each
  pattern in the cache serves the text it is kept under, the answer of a call does
  not depend on them. `Ensures` says so of a script, whatever the cache replies in
  between. A call evaluates only patterns that serve a text, so no others need to be
  in time (`Punctual`).

  What is proved:
    1. `ensures_compiled`, `ensures_matchesOne` and `ensures_matchesAny` — the
       calls come to the answers they have without a cache (`verdictOne`,
       `verdictAny`).
    2. `ensures_advance` and `served_advance` — one step keeps what a script
       ensures, and keeps every pattern in the cache serving its text.
    3. `perform_of_ensures` — a script that is carried through gives an answer it
       ensures.
    4. `finishes_matchesAny` — four steps for each element are enough, whatever the
       replies; `finishes_advance` takes one of them off.
-/

namespace AccessDecision

/-- Every evaluation of a pattern with the given budget ends within it. -/
def InTime (budget : Time.Duration) (clock : Clock) : Prop :=
  ∀ (n : Nat) (p : CompiledPattern), p.budget = budget → clock n p ≤ budget

theorem inTime_zero (budget : Time.Duration) : InTime budget fun _ _ => .zero :=
  fun _ _ _ => Nat.zero_le budget.nanos

theorem InTime.drop {budget : Time.Duration} {clock : Clock} (h : InTime budget clock) (n : Nat) :
    InTime budget (clock.drop n) :=
  fun i p hp => h (i + n) p hp

/-- Every evaluation of a pattern that serves a text ends within the budget of the
pattern. -/
def Punctual (serves : String → CompiledPattern → Prop) (clock : Clock) : Prop :=
  ∀ (n : Nat) (key : String) (p : CompiledPattern), serves key p → clock n p ≤ p.budget

/-- The verdict on one element without a cache. -/
def verdictOne (budget : Time.Duration) (candidate pattern : String) : Except PolicyError Bool :=
  if isWildcard pattern then
    (CompiledPattern.wildcard pattern budget).map fun p => p.expr.isMatch candidate
  else .ok (pattern == candidate)

/-- The verdict on some elements without a cache. -/
def verdictAny (budget : Time.Duration) (candidate : String) :
    List String → Except PolicyError Bool
  | [] => .ok false
  | pattern :: rest =>
    match verdictOne budget candidate pattern with
    | .ok false => verdictAny budget candidate rest
    | decided => decided

theorem verdictAny_singleton (budget : Time.Duration) (candidate pattern : String) :
    verdictAny budget candidate [pattern] = verdictOne budget candidate pattern := by
  rw [verdictAny]
  rcases verdictOne budget candidate pattern with e | _ | _ <;> rfl

/-- A pattern decides every candidate as the wildcard of a text does. -/
def CompiledPattern.Agrees (budget : Time.Duration) (key : String) (p : CompiledPattern) : Prop :=
  ∀ candidate, (wildcard key budget).map (fun q => q.expr.isMatch candidate) =
    .ok (p.expr.isMatch candidate)

theorem CompiledPattern.source_of_wildcard {key : String} {budget : Time.Duration}
    {p : CompiledPattern} (h : wildcard key budget = .ok p) : p.source = key := by
  rw [eq_ofWildcard h]
  rfl

theorem CompiledPattern.budget_of_wildcard {key : String} {budget : Time.Duration}
    {p : CompiledPattern} (h : wildcard key budget = .ok p) : p.budget = budget := by
  rw [eq_ofWildcard h]
  rfl

namespace Script

variable {α β : Type} {serves : String → CompiledPattern → Prop} {budget : Time.Duration}
  {timely : Prop} {m : PatternMatcher} {clock : Clock}

/-- Whatever a cache of patterns that serve their texts replies, a script gives an
answer with a property if evaluations are timely, and it offers and evaluates only
patterns that serve their texts. -/
def Ensures (serves : String → CompiledPattern → Prop) (budget : Time.Duration) (timely : Prop)
    (post : α → Prop) : Script α → Prop
  | done a => timely → post a
  | get key next =>
    ∀ r, (∀ p, r = some p → serves key p) → (next r).Ensures serves budget timely post
  | compile pattern next =>
    (next (CompiledPattern.wildcard pattern budget)).Ensures serves budget timely post
  | offer p next =>
    serves p.source p ∧
      ∀ stored, serves p.source stored → (next stored).Ensures serves budget timely post
  | evaluate _ p candidate next =>
    (timely → ∃ key, serves key p) ∧
      ∀ r, (timely → r = .ok (p.expr.isMatch candidate)) →
        (next r).Ensures serves budget timely post

/-! ## The answers of the calls -/

theorem ensures_bind {s : Script α} {f : α → Script β} {P : α → Prop} {Q : β → Prop}
    (hs : s.Ensures serves budget timely P)
    (hf : ∀ a, (timely → P a) → (f a).Ensures serves budget timely Q) :
    (s.bind f).Ensures serves budget timely Q := by
  induction s with
  | done a => exact hf a hs
  | get key next ih =>
    intro r hr
    exact ih r (hs r hr)
  | compile pattern next ih => exact ih _ hs
  | offer p next ih =>
    refine ⟨hs.1, ?_⟩
    intro stored hstored
    exact ih stored (hs.2 stored hstored)
  | evaluate n p candidate next ih =>
    refine ⟨hs.1, ?_⟩
    intro r hr
    exact ih r (hs.2 r hr)

theorem ensures_mono {s : Script α} {P Q : α → Prop} (hs : s.Ensures serves budget timely P)
    (h : timely → ∀ a, P a → Q a) : s.Ensures serves budget timely Q := by
  induction s with
  | done a => exact fun ht => h ht a (hs ht)
  | get key next ih => exact fun r hr => ih r (hs r hr)
  | compile pattern next ih => exact ih _ hs
  | offer p next ih => exact ⟨hs.1, fun stored hstored => ih stored (hs.2 stored hstored)⟩
  | evaluate n p candidate next ih => exact ⟨hs.1, fun r hr => ih r (hs.2 r hr)⟩

section

variable (hserve : ∀ key p, CompiledPattern.wildcard key budget = .ok p → serves key p)

include hserve

/-- Fetching a pattern gives one that serves the text, or the error of compiling
it. -/
theorem ensures_compiled (pattern : String) :
    (compiled pattern).Ensures serves budget timely fun r =>
      (∃ p, r = .ok p ∧ serves pattern p) ∨
        r = CompiledPattern.wildcard pattern budget := by
  intro r hr
  cases r with
  | some hit =>
    intro _
    exact .inl ⟨hit, rfl, hr hit rfl⟩
  | none =>
    simp only [Ensures]
    cases hw : CompiledPattern.wildcard pattern budget with
    | error e =>
      intro _
      exact .inr rfl
    | ok p =>
      have hsource : p.source = pattern := CompiledPattern.source_of_wildcard hw
      have hp : serves p.source p := hsource.symm ▸ hserve pattern p hw
      refine ⟨hp, ?_⟩
      intro stored hstored _
      exact .inl ⟨stored, rfl, hsource ▸ hstored⟩

theorem ensures_matchesOne (n : Nat) (candidate : String) {pattern : String}
    (hagree : timely → isWildcard pattern = true →
      ∀ p, serves pattern p → p.Agrees budget pattern) :
    (matchesOne n candidate pattern).Ensures serves budget timely
      (· = verdictOne budget candidate pattern) := by
  rw [matchesOne, verdictOne]
  split
  · rename_i hwild
    refine ensures_bind (ensures_compiled hserve pattern) ?_
    intro r hr
    cases r with
    | error e =>
      intro ht
      rcases hr ht with ⟨p, hp, _⟩ | he
      · cases hp
      · rw [← he]
        rfl
    | ok p =>
      have hp (ht : timely) : serves pattern p := by
        rcases hr ht with ⟨q, hq, hq'⟩ | he
        · cases hq
          exact hq'
        · exact hserve pattern p he.symm
      refine ⟨fun ht => ⟨pattern, hp ht⟩, ?_⟩
      intro v hv ht
      rw [hv ht, hagree ht hwild p (hp ht) candidate]
  · intro _
    rfl

theorem ensures_matchesAny (n : Nat) (candidate : String) {patterns : List String}
    (hagree : timely → ∀ pattern ∈ patterns, isWildcard pattern = true →
      ∀ p, serves pattern p → p.Agrees budget pattern) :
    (matchesAny candidate n patterns).Ensures serves budget timely
      (· = verdictAny budget candidate patterns) := by
  induction patterns generalizing n with
  | nil => exact fun _ => rfl
  | cons pattern rest ih =>
    have hrest := ih (n + 1) fun ht q hq => hagree ht q (List.mem_cons_of_mem pattern hq)
    refine ensures_bind (ensures_matchesOne hserve n candidate
      fun ht => hagree ht pattern List.mem_cons_self) ?_
    intro v hv
    rw [verdictAny]
    -- Only a verdict of no match goes on to the rest of the elements.
    rcases v with e | _ | _
    · intro ht
      rw [← hv ht]
    · refine ensures_mono hrest ?_
      intro ht a ha
      rw [ha, ← hv ht]
    · intro ht
      rw [← hv ht]

end

/-! ## Steps -/

theorem served_advance (clock : Clock) {s : Script α} {P : α → Prop}
    (hs : s.Ensures serves budget timely P) (hm : m.cache.Served serves) :
    (s.advance clock m).2.cache.Served serves := by
  cases s with
  | done a => exact hm
  | get key next => exact PatternCache.served_get? hm key
  | compile pattern next => exact hm
  | offer p next => exact PatternCache.served_getOrInsert hm hs.1
  | evaluate n p candidate next => exact hm

theorem ensures_advance {s : Script α} {P : α → Prop} (hs : s.Ensures serves budget timely P)
    (hb : m.budget = budget) (hm : m.cache.Served serves)
    (hclock : timely → Punctual serves clock) :
    (s.advance clock m).1.Ensures serves budget timely P := by
  subst hb
  cases s with
  | done a => exact hs
  | get key next =>
    apply hs
    intro p hp
    rw [PatternCache.get?_fst] at hp
    exact PatternCache.serves_of_peek? hm hp
  | compile pattern next => exact hs
  | offer p next =>
    apply hs.2
    rw [PatternCache.getOrInsert_fst]
    cases hpeek : m.cache.peek? p.source with
    | none => exact hs.1
    | some stored => exact PatternCache.serves_of_peek? hm hpeek
  | evaluate n p candidate next =>
    apply hs.2
    intro ht
    obtain ⟨key, hkey⟩ := hs.1 ht
    apply CompiledPattern.isMatch_of_inTime
    rw [Clock.drop_apply_zero]
    exact hclock ht n key p hkey

/-- A script that is carried through gives an answer that it ensures, and leaves a
cache of patterns that serve their texts. -/
theorem perform_of_ensures {s : Script α} {P : α → Prop} (hs : s.Ensures serves budget timely P)
    (hb : m.budget = budget) (hm : m.cache.Served serves)
    (hclock : timely → Punctual serves clock) :
    (timely → P (s.perform clock m).1) ∧ (s.perform clock m).2.cache.Served serves := by
  induction s generalizing m with
  | done a => exact ⟨hs, hm⟩
  | get key next ih | compile pattern next ih | offer p next ih | evaluate n p candidate next ih =>
    rw [← perform_advance]
    exact ih _ (ensures_advance hs hb hm hclock) ((budget_advance clock m _).trans hb)
      (served_advance clock hs hm)

/-! ## The number of steps -/

/-- So many steps are enough, whatever the replies. -/
def Finishes : Script α → Nat → Prop
  | done _, _ => True
  | get _ next, n + 1 => ∀ r, (next r).Finishes n
  | compile _ next, n + 1 => ∀ r, (next r).Finishes n
  | offer _ next, n + 1 => ∀ r, (next r).Finishes n
  | evaluate _ _ _ next, n + 1 => ∀ r, (next r).Finishes n
  | _, 0 => False

theorem finishes_zero {s : Script α} (h : s.Finishes 0) : ∃ a, s = done a := by
  cases s with
  | done a => exact ⟨a, rfl⟩
  | get key next => cases h
  | compile pattern next => cases h
  | offer p next => cases h
  | evaluate n p candidate next => cases h

/-- A step uses up one of the steps that are enough. -/
theorem finishes_advance {s : Script α} {n : Nat} (h : s.Finishes (n + 1)) :
    (s.advance clock m).1.Finishes n := by
  cases s with
  | done a => trivial
  | get key next => exact h _
  | compile pattern next => exact h _
  | offer p next => exact h _
  | evaluate n p candidate next => exact h _

theorem finishes_mono {s : Script α} {n k : Nat} (h : s.Finishes n) (hnk : n ≤ k) :
    s.Finishes k := by
  induction s generalizing n k with
  | done a => trivial
  | get key next ih | compile pattern next ih | offer p next ih | evaluate n p candidate next ih =>
    cases n with
    | zero => cases h
    | succ n =>
      obtain ⟨j, rfl⟩ : ∃ j, k = j + 1 := ⟨k - 1, by omega⟩
      exact fun r => ih r (h r) (by omega)

theorem finishes_bind {s : Script α} {f : α → Script β} {n k : Nat} (hs : s.Finishes n)
    (hf : ∀ a, (f a).Finishes k) : (s.bind f).Finishes (n + k) := by
  induction s generalizing n with
  | done a => exact finishes_mono (hf a) (Nat.le_add_left k n)
  | get key next ih | compile pattern next ih | offer p next ih | evaluate n p candidate next ih =>
    cases n with
    | zero => cases hs
    | succ n =>
      rw [Nat.add_right_comm]
      exact fun r => ih r (hs r)

theorem finishes_compiled (pattern : String) : (compiled pattern).Finishes 3 := by
  intro r
  cases r with
  | some hit => trivial
  | none =>
    intro r
    cases r with
    | error e => trivial
    | ok p => exact fun _ => trivial

theorem finishes_matchesOne (n : Nat) (candidate pattern : String) :
    (matchesOne n candidate pattern).Finishes 4 := by
  rw [matchesOne]
  split
  · refine finishes_bind (k := 1) (finishes_compiled pattern) ?_
    intro r
    cases r with
    | error e => trivial
    | ok p => exact fun _ => trivial
  · trivial

/-- Four steps for each element are enough. -/
theorem finishes_matchesAny (candidate : String) (n : Nat) (patterns : List String) :
    (matchesAny candidate n patterns).Finishes (4 * patterns.length) := by
  induction patterns generalizing n with
  | nil => trivial
  | cons pattern rest ih =>
    rw [List.length_cons, Nat.mul_succ, Nat.add_comm]
    refine finishes_bind (finishes_matchesOne n candidate pattern) ?_
    intro v
    rcases v with e | _ | _
    · trivial
    · exact ih (n + 1)
    · trivial

end Script

/-! ## Calls as values -/

/-- A pattern is what a text compiles to. -/
def CompiledPattern.StandsFor (budget : Time.Duration) (key : String) (p : CompiledPattern) :
    Prop :=
  wildcard key budget = .ok p

namespace Call

variable {budget : Time.Duration} {timely : Prop}

/-- The answer of a call without a cache. -/
def expected (budget : Time.Duration) : Call → Answer
  | compiled pattern => .compiled (CompiledPattern.wildcard pattern budget)
  | matchesOne candidate pattern => .verdict (verdictOne budget candidate pattern)
  | matchesList candidate patterns =>
    .verdict (verdictAny budget candidate (patternElements patterns))
  | mustMatch candidate patterns =>
    .matched (failClosed (verdictAny budget candidate (patternElements patterns)))

/-- A number of steps that is enough for a call. -/
def steps : Call → Nat
  | compiled _ => 3
  | matchesOne _ _ => 4
  | matchesList _ patterns => 4 * (patternElements patterns).length
  | mustMatch _ patterns => 4 * (patternElements patterns).length

theorem finishes_script (call : Call) : call.script.Finishes call.steps := by
  cases call with
  | compiled pattern =>
    exact Script.finishes_bind (k := 0) (Script.finishes_compiled pattern) fun _ => trivial
  | matchesOne candidate pattern =>
    exact Script.finishes_bind (k := 0) (Script.finishes_matchesOne 0 candidate pattern)
      fun _ => trivial
  | matchesList candidate patterns =>
    exact Script.finishes_bind (k := 0)
      (Script.finishes_matchesAny candidate 0 (patternElements patterns)) fun _ => trivial
  | mustMatch candidate patterns =>
    exact Script.finishes_bind (k := 0) (Script.finishes_bind (k := 0)
      (Script.finishes_matchesAny candidate 0 (patternElements patterns)) fun _ => trivial)
      fun _ => trivial

theorem agrees_of_standsFor {key : String} {p : CompiledPattern}
    (h : p.StandsFor budget key) : p.Agrees budget key := by
  intro candidate
  rw [show CompiledPattern.wildcard key budget = .ok p from h]
  rfl

theorem punctual_of_inTime {clock : Clock} (h : InTime budget clock) :
    Punctual (CompiledPattern.StandsFor budget) clock := by
  intro n key p hp
  have hbudget : p.budget = budget := CompiledPattern.budget_of_wildcard hp
  exact hbudget.symm ▸ h n p hbudget

/-- Over a cache of patterns as they compile now, a call comes to its answer
without one. -/
theorem ensures_script {serves : String → CompiledPattern → Prop}
    (hserve : ∀ key p, CompiledPattern.wildcard key budget = .ok p → serves key p)
    (hstands : timely → ∀ key p, serves key p → p.StandsFor budget key) (call : Call) :
    call.script.Ensures serves budget timely (· = call.expected budget) := by
  have hagree (ht : timely) (pattern : String) (p : CompiledPattern) (hp : serves pattern p) :
      p.Agrees budget pattern := agrees_of_standsFor (hstands ht pattern p hp)
  have hlist (candidate patterns : String) :
      (Script.matchesList candidate patterns).Ensures serves budget timely
        (· = verdictAny budget candidate (patternElements patterns)) :=
    Script.ensures_matchesAny hserve 0 candidate fun ht pattern _ _ => hagree ht pattern
  cases call with
  | compiled pattern =>
    refine Script.ensures_bind (Script.ensures_compiled hserve pattern) ?_
    intro r hr ht
    rcases hr ht with ⟨p, rfl, hp⟩ | rfl
    · rw [expected, show CompiledPattern.wildcard pattern budget = .ok p from hstands ht _ p hp]
    · rfl
  | matchesOne candidate pattern =>
    refine Script.ensures_bind
      (Script.ensures_matchesOne hserve 0 candidate fun ht _ => hagree ht pattern) ?_
    intro r hr ht
    rw [hr ht]
    rfl
  | matchesList candidate patterns =>
    refine Script.ensures_bind (hlist candidate patterns) ?_
    intro r hr ht
    rw [hr ht]
    rfl
  | mustMatch candidate patterns =>
    refine Script.ensures_bind (Script.ensures_bind
      (Q := (· = failClosed (verdictAny budget candidate (patternElements patterns))))
      (hlist candidate patterns) ?_) ?_
    · intro r hr ht
      rw [hr ht]
    · intro b hb ht
      rw [hb ht]
      rfl

/-- On a matcher that holds no pattern, a call gives its answer without a cache. -/
theorem perform_of_new (call : Call) (m : PatternMatcher) {clock : Clock}
    (hempty : m.cache.entries = []) (hclock : InTime m.budget clock) :
    (call.perform clock m).1 = call.expected m.budget := by
  have hserved : m.cache.Served (CompiledPattern.StandsFor m.budget) := by
    intro p hp
    rw [hempty] at hp
    cases hp
  have hscript : call.script.Ensures (CompiledPattern.StandsFor m.budget) m.budget True
      (· = call.expected m.budget) := call.ensures_script (fun _ _ h => h) fun _ _ _ h => h
  rw [perform_eq_script]
  exact (Script.perform_of_ensures hscript rfl hserved fun _ =>
    punctual_of_inTime hclock).1 trivial

end Call

end AccessDecision
