import AccessDecision.MatcherConfig
import AccessDecision.Pattern.Cache

/-
  Matching identifiers against pattern lists

  A pattern list is a text of elements between commas. An element without the
  wildcard character matches the text it is; any other is compiled once and kept
  in the cache. The first element that matches decides, and so does the first
  that fails. Every operation gives back its result with the matcher as it leaves
  it.

  An element is evaluated at most once, so each of them has a time of its own in the
  clock of the operation, the first element the first time. An element that is decided
  without an evaluation lets its time go by.
-/

namespace AccessDecision

/-- A matcher: its cache, and the time that one evaluation may take. -/
structure PatternMatcher where
  cache : PatternCache
  budget : Time.Duration

/-- The character between the elements of a pattern list. -/
def patternSeparator : Char := ','

/-- The elements of a pattern list. -/
def patternElements (patterns : String) : List String :=
  (Text.fields patternSeparator patterns.toList).map String.ofList

namespace PatternMatcher

/-- A new matcher with the given settings. -/
def ofConfig (config : MatcherConfig) : PatternMatcher :=
  ⟨PatternCache.empty config.capacity config.capacity_pos, config.matchTimeout⟩

/-- A new matcher that keeps at most so many patterns. -/
def withCapacity (capacity : Nat) : PatternMatcher :=
  ofConfig (MatcherConfig.default.withCacheCapacity capacity)

/-- A new matcher with the default settings. -/
def default : PatternMatcher := ofConfig MatcherConfig.default

instance : Inhabited PatternMatcher := ⟨default⟩

/-- The compiled form of a pattern, from the cache or compiled now. Nothing is
cached if it does not compile. -/
def compiled (m : PatternMatcher) (pattern : String) :
    Except PolicyError CompiledPattern × PatternMatcher :=
  match m.cache.get? pattern with
  | (some hit, cache) => (.ok hit, { m with cache := cache })
  | (none, cache) =>
    match CompiledPattern.wildcard pattern m.budget with
    | .error e => (.error e, { m with cache := cache })
    | .ok p =>
      match cache.getOrInsert p with
      | (stored, cache) => (.ok stored, { m with cache := cache })

/-- Whether one element matches. -/
def matchesOne (clock : Clock) (m : PatternMatcher) (candidate pattern : String) :
    Except PolicyError Bool × PatternMatcher :=
  if isWildcard pattern then
    match m.compiled pattern with
    | (.error e, m) => (.error e, m)
    | (.ok p, m) => (p.isMatch clock candidate, m)
  else (.ok (pattern == candidate), m)

/-- Whether one of some elements matches, from the first on. -/
def matchesAny (clock : Clock) (candidate : String) (m : PatternMatcher) :
    List String → Except PolicyError Bool × PatternMatcher
  | [] => (.ok false, m)
  | pattern :: rest =>
    match m.matchesOne clock candidate pattern with
    | (.ok false, m) => m.matchesAny (clock.drop 1) candidate rest
    | decided => decided

/-- Whether a candidate matches a pattern list. -/
def matchesList (clock : Clock) (m : PatternMatcher) (candidate patterns : String) :
    Except PolicyError Bool × PatternMatcher :=
  m.matchesAny clock candidate (patternElements patterns)

/-- Whether a candidate matches a pattern list, where an error is no match. -/
def mustMatch (clock : Clock) (m : PatternMatcher) (candidate patterns : String) :
    Bool × PatternMatcher :=
  match m.matchesList clock candidate patterns with
  | (.ok matched, m) => (matched, m)
  | (.error _, m) => (false, m)

end PatternMatcher

end AccessDecision
