import AccessDecision.Unicode.CategoryTable
import AccessDecision.Unicode.Extent

/-
  Sets of code points

  A set is written as whole categories, with ranges added and ranges taken out.
  A range list ascends, so a search may stop at the first range that starts
  beyond the code point.
-/

namespace AccessDecision.Unicode

/-- The last category that starts at or before `c`, given the one in force. -/
def categoryIn (c : Nat) : List (Nat × Category) → Category → Category
  | [], k => k
  | (start, k') :: rest, k => if c < start then k else categoryIn c rest k'

/-- The general category of a character. -/
def category (c : Char) : Category :=
  categoryIn c.toNat categoryRuns .cn

/-- Whether `c` lies in one of the ascending ranges. -/
def inRanges (c : Nat) : List (Nat × Nat) → Bool
  | [] => false
  | (lo, hi) :: rest => if c < lo then false else c ≤ hi || inRanges c rest

/-- The code points of some categories as ranges, given the runs still to come:
each run ends before the next one starts. -/
def categoryRanges (ks : List Category) : List (Nat × Category) → List (Nat × Nat)
  | [] => []
  | [(start, k)] => if ks.contains k then [(start, 0x10FFFF)] else []
  | (start, k) :: (next, k') :: rest =>
    let later := categoryRanges ks ((next, k') :: rest)
    if ks.contains k then (start, next - 1) :: later else later

/-- A set of code points: the members of `categories` that are not `removed`,
and those `added`. -/
structure CodeSet where
  categories : List Category
  added : List (Nat × Nat)
  removed : List (Nat × Nat)

namespace CodeSet

/-- Membership of a character. -/
def contains (s : CodeSet) (c : Char) : Bool :=
  inRanges c.toNat s.added ||
    (s.categories.contains (category c) && !inRanges c.toNat s.removed)

/-- The set by its boundaries. -/
def extent (s : CodeSet) : Extent :=
  ((Extent.ofRanges (categoryRanges s.categories categoryRuns)).diff
    (.ofRanges s.removed)).union (.ofRanges s.added)

/-- The union of some categories. -/
def ofCategories (ks : List Category) : CodeSet := ⟨ks, [], []⟩

/-- The code points of some ascending ranges. -/
def ofRanges (rs : List (Nat × Nat)) : CodeSet := ⟨[], rs, []⟩

end CodeSet

end AccessDecision.Unicode
