import AccessDecision.Pattern.Compiled

/-
  The cache of compiled patterns

  A bounded store under the source text of the patterns. When it is full, the
  pattern that was used least recently makes room. The first pattern stored under
  a text stays until it is evicted; later offers for the same text get the one
  that is there.
-/

namespace AccessDecision

/-- A cache, with the most recently used pattern first. -/
structure PatternCache where
  capacity : Nat
  capacity_pos : 0 < capacity
  entries : List CompiledPattern

namespace PatternCache

/-- The cache without patterns. -/
def empty (capacity : Nat) (h : 0 < capacity) : PatternCache := ⟨capacity, h, []⟩

/-- The texts that have a pattern, most recently used first. -/
def keys (c : PatternCache) : List String := c.entries.map (·.source)

/-- The number of patterns. -/
def size (c : PatternCache) : Nat := c.entries.length

/-- Whether there is no pattern. -/
def isEmpty (c : PatternCache) : Bool := c.entries.isEmpty

/-- The pattern of a text, which leaves its recency alone. -/
def peek? (c : PatternCache) (key : String) : Option CompiledPattern :=
  c.entries.find? fun p => p.source == key

/-- Whether a text has a pattern, which leaves its recency alone. -/
def contains (c : PatternCache) (key : String) : Bool := (c.peek? key).isSome

/-- Makes a pattern the most recently used one. -/
def touch (c : PatternCache) (p : CompiledPattern) : PatternCache :=
  { c with entries := p :: c.entries.filter fun q => q.source != p.source }

/-- The pattern of a text, which becomes the most recently used one. -/
def get? (c : PatternCache) (key : String) : Option CompiledPattern × PatternCache :=
  match c.peek? key with
  | some p => (some p, c.touch p)
  | none => (none, c)

/-- Stores a pattern as the most recently used one; if there is no room, the least
recently used one goes. -/
def insert (c : PatternCache) (p : CompiledPattern) : PatternCache :=
  { c with entries := (p :: c.entries).take c.capacity }

/-- Stores a pattern unless its text has one already, and gives back the one that
is stored. -/
def getOrInsert (c : PatternCache) (p : CompiledPattern) : CompiledPattern × PatternCache :=
  match c.get? p.source with
  | (some stored, c) => (stored, c)
  | (none, c) => (p, c.insert p)

/-- Removes all patterns. -/
def clear (c : PatternCache) : PatternCache := { c with entries := [] }

end PatternCache

end AccessDecision
