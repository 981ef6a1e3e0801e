/-
  Sets of characters by their boundaries

  A set is written as the ascending positions at which membership changes, from
  outside before the first of them. Two equal sets have equal boundaries, so what
  is counted on them does not depend on how a set came about. Positions number
  the characters without a gap: the code points of the surrogates have none.
-/

namespace AccessDecision.Unicode

/-- A set of characters, as the positions at which membership changes. -/
structure Extent where
  flips : List Nat
deriving DecidableEq, Repr

namespace Extent

/-- The position of a code point. The surrogates share that of the character
after them. -/
def position (n : Nat) : Nat := if n < 0xD800 then n else Nat.max 0xD800 (n - 0x800)

/-- The code point at a position. -/
def code (p : Nat) : Nat := if p < 0xD800 then p else p + 0x800

/-- Puts a change in front of later ones. Two changes at one position undo each
other. -/
def flipAt (p : Nat) : List Nat → List Nat
  | [] => [p]
  | q :: rest => if p = q then rest else p :: q :: rest

/-- The set of some ascending ranges of code points. -/
def ofRanges (rs : List (Nat × Nat)) : Extent :=
  ⟨rs.foldr (fun (lo, hi) rest => flipAt (position lo) (flipAt (position (hi + 1)) rest)) []⟩

/-- The empty set. -/
def none : Extent := ⟨[]⟩

/-- All characters. -/
def any : Extent := ofRanges [(0, 0x10FFFF)]

/-- The set of one character. -/
def single (c : Char) : Extent := ofRanges [(c.toNat, c.toNat)]

/-- Membership of a position, given membership before the next change. -/
def containsFrom (inside : Bool) (p : Nat) : List Nat → Bool
  | [] => inside
  | q :: rest => if p < q then inside else containsFrom (!inside) p rest

/-- Membership of a character, given by its code point. -/
def contains (s : Extent) (n : Nat) : Bool := containsFrom false (position n) s.flips

/-- Puts a change of the first set into those of the second, where `rest` goes on
from there. -/
def interleaveAt (p : Nat) (rest : List Nat → List (Nat × Bool)) : List Nat → List (Nat × Bool)
  | [] => (p, true) :: rest []
  | q :: qs => if p ≤ q then (p, true) :: rest (q :: qs) else (q, false) :: interleaveAt p rest qs

/-- The changes of two sets in ascending order, and whether each belongs to the
first. -/
def interleave : List Nat → List Nat → List (Nat × Bool)
  | [], qs => qs.map (·, false)
  | p :: ps, qs => interleaveAt p (interleave ps) qs

/-- The changes of `op a b`, given membership in the two sets before the changes to
come. -/
def combineFrom (op : Bool → Bool → Bool) (a b : Bool) : List (Nat × Bool) → List Nat
  | [] => []
  | (p, isFirst) :: rest =>
    let a' := a != isFirst
    let b' := b != !isFirst
    let later := combineFrom op a' b' rest
    if op a b = op a' b' then later else flipAt p later

/-- The set of the characters for which `op` holds of membership in both sets. No
character outside both may be in it. -/
def combine (op : Bool → Bool → Bool) (s t : Extent) : Extent :=
  ⟨combineFrom op false false (interleave s.flips t.flips)⟩

/-- The union. -/
def union : Extent → Extent → Extent := combine (· || ·)

/-- The intersection. -/
def inter : Extent → Extent → Extent := combine (· && ·)

/-- The difference. -/
def diff : Extent → Extent → Extent := combine fun a b => a && !b

/-- The symmetric difference. -/
def symDiff : Extent → Extent → Extent := combine (· != ·)

/-- The complement. -/
def compl (s : Extent) : Extent := symDiff s any

/-- The boundaries in pairs: where a run of members starts, and where it has
ended. -/
def pairs : List Nat → List (Nat × Nat)
  | p :: q :: rest => (p, q) :: pairs rest
  | _ => []

/-- The ranges of code points, ascending and apart from each other. A range may
reach over the surrogates. -/
def ranges (s : Extent) : List (Nat × Nat) :=
  (pairs s.flips).map fun (p, q) => (code p, code (q - 1))

end Extent

end AccessDecision.Unicode
