import AccessDecision.Json.Writer
import AccessDecision.PolicyError
import AccessDecision.Time.Duration

/-
  Settings of a matcher

  Two numbers: how many compiled patterns are kept, and how many milliseconds one
  evaluation may take. Zero stands for the default of either.
-/

namespace AccessDecision

/-- The settings as they are given. -/
structure MatcherConfig where
  cacheCapacity : Nat
  matchTimeoutMillis : Nat
deriving DecidableEq, Repr

namespace MatcherConfig

/-- The number of patterns kept by default. -/
def defaultCacheCapacity : Nat := 512

/-- The milliseconds an evaluation may take by default. -/
def defaultMatchTimeoutMillis : Nat := 250

/-- The greatest number of patterns that may be kept. -/
def maxCacheCapacity : Nat := 2 ^ 20

/-- The greatest number of milliseconds that can be set. -/
def maxMillis : Nat := 2 ^ 64 - 1

/-- The default settings. -/
def default : MatcherConfig := ⟨defaultCacheCapacity, defaultMatchTimeoutMillis⟩

instance : Inhabited MatcherConfig := ⟨default⟩

/-- Sets the number of patterns kept. -/
def withCacheCapacity (c : MatcherConfig) (capacity : Nat) : MatcherConfig :=
  { c with cacheCapacity := capacity }

/-- Sets the time an evaluation may take, rounded up to whole milliseconds and
cut at the greatest number that can be set. -/
def withMatchTimeout (c : MatcherConfig) (timeout : Time.Duration) : MatcherConfig :=
  { c with matchTimeoutMillis := Nat.min timeout.ceilMillis maxMillis }

/-- The number of patterns in effect. -/
def capacity (c : MatcherConfig) : Nat :=
  if c.cacheCapacity = 0 then defaultCacheCapacity else c.cacheCapacity

theorem capacity_pos (c : MatcherConfig) : 0 < c.capacity := by
  unfold capacity
  split
  · decide
  · omega

/-- The time in effect. -/
def matchTimeout (c : MatcherConfig) : Time.Duration :=
  Time.Duration.ofMillis
    (if c.matchTimeoutMillis = 0 then defaultMatchTimeoutMillis else c.matchTimeoutMillis)

/-- Refuses settings that are out of bounds. -/
def validate (c : MatcherConfig) : Except PolicyError Unit :=
  if c.cacheCapacity ≤ maxCacheCapacity then .ok ()
  else .error (.invalidConfig ("cache_capacity " ++ toString c.cacheCapacity ++
    " exceeds maximum of " ++ toString maxCacheCapacity))

/-- Writes the settings. -/
def write (c : MatcherConfig) : Json.Writer :=
  Json.writeObject [
    ("cache_capacity", Json.writeScalar (.number (.integer c.cacheCapacity))),
    ("match_timeout_ms", Json.writeScalar (.number (.integer c.matchTimeoutMillis)))]

end MatcherConfig

end AccessDecision
