/-
  Case mappings as runs

  A mapping from characters to characters is kept as runs: every `step`-th code
  point from `first` to `last` goes to the code point `offset` away. A code point
  outside all runs is its own image.
-/

namespace AccessDecision.Unicode

/-- One run of a case mapping. -/
structure CaseRun where
  first : Nat
  last : Nat
  step : Nat
  offset : Int

namespace CaseRun

/-- Whether the run maps `c`. -/
def covers (r : CaseRun) (c : Nat) : Bool :=
  r.first ≤ c && c ≤ r.last && (c - r.first) % r.step == 0

/-- The code points that the run maps. -/
def sources (r : CaseRun) : List Nat :=
  (List.range ((r.last - r.first) / r.step + 1)).map fun i => r.first + r.step * i

/-- The image of a code point that the run maps. -/
def image (r : CaseRun) (c : Nat) : Nat := (c + r.offset).toNat

/-- The code point whose image under the run is `d`, if there is one. -/
def source? (r : CaseRun) (d : Nat) : Option Nat :=
  let c := (d - r.offset).toNat
  if r.covers c && r.image c == d then some c else none

end CaseRun

/-- The image of `c` under a mapping. -/
def mapThrough : List CaseRun → Nat → Nat
  | [], c => c
  | r :: rest, c => if r.covers c then r.image c else mapThrough rest c

end AccessDecision.Unicode
