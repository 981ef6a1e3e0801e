import AccessDecision.Proofs.Pattern.Decisive

/-
  What a scan leaves in the cache

  Of the elements that a scan comes to, only a wildcard leaves anything in the cache:
  its pattern becomes the one used most recently, and is compiled and stored if it was
  not there (`PatternCache.bring`). Elements behind the deciding one leave nothing.

  What is proved:
    1. `compiled_eq` and `matchesOne_snd` — what one element leaves.
    2. `afterElements_eq` — what some elements leave, one after the other.
    3. `matches_leaves_wildcards` — so the cache after a call is the one before it with
       the wildcards up to the deciding element brought to its front in order, and nothing
       else.
-/

namespace AccessDecision

/-! ## One element -/

namespace PatternCache

/-- The cache with the pattern of a wildcard brought to its front: touched if it is
there, else compiled and stored. A wildcard that is not there and does not compile
leaves the cache as it is. -/
def bring (budget : Time.Duration) (c : PatternCache) (wildcard : String) : PatternCache :=
  match c.peek? wildcard with
  | some p => c.touch p
  | none =>
    match CompiledPattern.wildcard wildcard budget with
    | .ok p => c.insert p
    | .error _ => c

end PatternCache

namespace PatternMatcher

variable (clock : Clock) (candidate : String) (m : PatternMatcher)

/-- Calling for a wildcard gives the pattern that is there, or else what the wildcard
compiles to, and brings it to the front. -/
theorem compiled_eq (wildcard : String) :
    m.compiled wildcard =
      (match m.cache.peek? wildcard with
        | some p => .ok p
        | none => CompiledPattern.wildcard wildcard m.budget,
      { m with cache := m.cache.bring m.budget wildcard }) := by
  rw [compiled, PatternCache.bring]
  cases hpeek : m.cache.peek? wildcard with
  | some p => simp only [PatternCache.get?_of_peek? hpeek]
  | none =>
    simp only [PatternCache.get?_of_peek?_none hpeek]
    cases hwildcard : CompiledPattern.wildcard wildcard m.budget with
    | error e => rfl
    | ok p =>
      have hsource := CompiledPattern.source_of_wildcard hwildcard
      have haway : m.cache.peek? p.source = none := by rw [hsource, hpeek]
      simp only [PatternCache.getOrInsert_of_peek?_none haway]

/-- A wildcard that fails to compile leaves no trace. -/
theorem compiled_snd_of_error {wildcard : String} {e : PolicyError}
    (h : (m.compiled wildcard).1 = .error e) : (m.compiled wildcard).2 = m := by
  rw [compiled_eq] at h ⊢
  rw [PatternCache.bring]
  cases hpeek : m.cache.peek? wildcard with
  | some p => simp [hpeek] at h
  | none =>
    simp only [hpeek] at h
    simp only [h]

/-- An element leaves the matcher as it is unless it is a wildcard. -/
theorem matchesOne_snd (element : String) :
    (m.matchesOne clock candidate element).2 =
      if isWildcard element then (m.compiled element).2 else m := by
  rw [matchesOne]
  split
  · rcases m.compiled element with ⟨e | p, m'⟩ <;> rfl
  · rfl

/-! ## Elements one after the other -/

theorem afterElements_eq (elements : List String) :
    afterElements clock candidate m elements =
      { m with cache := (elements.filter isWildcard).foldl (.bring m.budget) m.cache } := by
  induction elements generalizing clock m with
  | nil => rfl
  | cons element rest ih =>
    -- The budget stays the same, so every wildcard is brought with that of `m`.
    rw [afterElements, ih, matchesOne_snd, compiled_eq]
    by_cases hwild : isWildcard element = true
    · rw [if_pos hwild, List.filter_cons_of_pos hwild, List.foldl_cons]
    · rw [if_neg hwild, List.filter_cons_of_neg hwild]

end PatternMatcher

open PatternMatcher

/-- The cache after a call is the one before it with the wildcards up to the deciding
element brought to its front in order, whichever time it is that makes an element decide.
A wildcard that fails to compile leaves no trace, neither by itself nor at the end of a
scan, where those before it have left theirs. -/
theorem matches_leaves_wildcards (clock : Clock) (candidate : String) (m : PatternMatcher)
    (patterns : String) :
    let elements := patternElements patterns
    let deciding := (results clock candidate m elements).findIdx decisive
    let m' := (m.matchesList clock candidate patterns).2
    m'.budget = m.budget ∧
    m'.cache =
      ((elements.take (deciding + 1)).filter isWildcard).foldl (.bring m.budget) m.cache ∧
    (∀ before element rest e, elements = before ++ element :: rest →
      (∀ r ∈ results clock candidate m before, r = .ok false) → isWildcard element = true →
      ((afterElements clock candidate m before).compiled element).1 = .error e →
      m'.cache = (before.filter isWildcard).foldl (.bring m.budget) m.cache) ∧
    ∀ pattern e, (m.compiled pattern).1 = .error e → (m.compiled pattern).2 = m := by
  intro elements deciding m'
  have hleft : m' = afterElements clock candidate m (elements.take (deciding + 1)) :=
    congrArg Prod.snd (matchesAny_eq clock candidate m elements)
  refine ⟨?_, ?_, ?_, fun pattern e => m.compiled_snd_of_error⟩
  · rw [hleft, afterElements_eq]
  · rw [hleft, afterElements_eq]
  · intro before element rest e helements hpassed hwild herror
    have hone : (afterElements clock candidate m before).matchesOne (clock.drop before.length)
        candidate element = (.error e, afterElements clock candidate m before) := by
      apply Prod.ext
      · rw [matchesOne_fst, if_pos hwild, herror]
        rfl
      · rw [matchesOne_snd, if_pos hwild, compiled_snd_of_error _ herror]
    have hscan := matchesAny_of_decisive clock candidate m rest hpassed (by rw [hone]; rfl)
    rw [hone, ← helements] at hscan
    have hm' : m' = afterElements clock candidate m before := congrArg Prod.snd hscan
    rw [hm', afterElements_eq]

/-- So many stars that they do not compile. -/
def manyStars : String := String.ofList (List.replicate 1100 wildcardChar)

theorem wildcard_manyStars (budget : Time.Duration) :
    CompiledPattern.wildcard manyStars budget = .error (.compile (.tooBig Regex.sizeLimit)) := by
  have hbig : Regex.sizeLimit <
      (CompiledPattern.wildcardExpr (List.replicate 1100 wildcardChar)).memory := by
    decide +kernel
  rw [CompiledPattern.wildcard_eq, manyStars, String.toList_ofList, if_neg (Nat.not_le.mpr hbig)]

/-- With `c*` and `b*` in a cache for two, a scan over `b*`, `b`, too many stars and `d*`
brings `b*` to the front and changes nothing else. A scan over `b*`, `c*`, `b*` and `d*`
whose third evaluation takes too long brings the last `b*` like the first, and `d*` not at
all. -/
theorem failing_scan_leaves_first_wildcard :
    let clock : Clock := fun _ _ => .zero
    let slow : Clock := fun n _ => if n = 2 then ⟨250000001⟩ else .zero
    let m := (ofConfig ⟨2, 250⟩).after [.call (.matchesList "x" "b*,c*") clock]
    let patterns := joinElements ["b*", "b", manyStars, "d*"]
    m.cache.keys = ["c*", "b*"] ∧
      (m.matchesList clock "x" patterns).2.cache.keys = ["b*", "c*"] ∧
      (m.compiled manyStars).2 = m ∧
      ((ofConfig ⟨4, 250⟩).matchesList slow "x" "b*,c*,b*,d*").2.cache.keys = ["b*", "c*"] := by
  intro clock slow m patterns
  -- The long text is known as a list of characters only.
  have hstars : manyStars.toList = List.replicate 1100 wildcardChar := String.toList_ofList
  have hwild : isWildcard manyStars = true := by
    rw [isWildcard, hstars]
    decide
  have hcomma : patternSeparator ∉ manyStars.toList := by
    rw [hstars]
    exact fun h => absurd (List.eq_of_mem_replicate h) (by decide)
  have helements : patternElements patterns = ["b*", "b"] ++ manyStars :: ["d*"] := by
    apply patternElements_joinElements (List.cons_ne_nil _ _)
    intro element helement
    simp only [List.mem_cons, List.not_mem_nil, or_false] at helement
    rcases helement with rfl | rfl | rfl | rfl
    · decide
    · decide
    · exact hcomma
    · decide
  have hcompiled : ∀ m : PatternMatcher, m.cache.peek? manyStars = none →
      (m.compiled manyStars).1 = .error (.compile (.tooBig Regex.sizeLimit)) := by
    intro m haway
    rw [compiled_eq]
    simp only [haway]
    exact wildcard_manyStars m.budget
  obtain ⟨-, -, hscan, halone⟩ := matches_leaves_wildcards clock "x" m patterns
  have hcache := hscan ["b*", "b"] manyStars ["d*"] _ helements (by decide +kernel) hwild
    (hcompiled _ (Option.isNone_iff_eq_none.mp (by decide +kernel)))
  have hkept := halone manyStars _ (hcompiled m (Option.isNone_iff_eq_none.mp (by decide +kernel)))
  refine ⟨by decide +kernel, ?_, hkept, ?_⟩
  · rw [hcache]
    decide +kernel
  · obtain ⟨-, hleft, -⟩ :=
      matches_leaves_wildcards slow "x" (ofConfig ⟨4, 250⟩) "b*,c*,b*,d*"
    rw [hleft]
    decide +kernel

end AccessDecision
