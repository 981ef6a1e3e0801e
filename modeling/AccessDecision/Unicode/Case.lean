import AccessDecision.Unicode.CaseTable
import AccessDecision.Unicode.Extent

/-
  Case of characters

  Two notions are used. Text comparison folds a character by the upper and lower
  case mappings (`foldChar`): first to upper case, then to lower case, where a
  mapping counts only if it yields a single character. Matching without regard
  to case uses the orbits of the simple case folding (`orbit`).
-/

namespace AccessDecision.Unicode

/-- The character at `n`, or `c` if `n` is no character. -/
def charAt (n : Nat) (c : Char) : Char :=
  if h : n.isValidChar then Char.ofNatAux n h else c

/-- The image of a character under a case mapping. -/
def mapChar (runs : List CaseRun) (c : Char) : Char :=
  charAt (mapThrough runs c.toNat) c

/-- Upper case, where it is one character; else the character itself. -/
def toUpper (c : Char) : Char := mapChar upperRuns c

/-- Lower case, where it is one character; else the character itself. -/
def toLower (c : Char) : Char := mapChar lowerRuns c

/-- Folds a character for comparison without regard to case. -/
def foldChar (c : Char) : Char := toLower (toUpper c)

/-- Folds a text character by character, so its length stays the same. -/
def foldCase (s : String) : String := String.ofList (s.toList.map foldChar)

/-- The representative of the character's case orbit. -/
def simpleFold (c : Char) : Char := mapChar foldRuns c

/-- All characters that the simple case folding identifies with `c`. -/
def orbit (c : Char) : List Char :=
  let f := simpleFold c
  f :: foldRuns.filterMap fun r => (r.source? f.toNat).map (charAt · c)

/-- The case orbits of two or more code points. -/
def orbits : List (List Nat) :=
  let pairs := foldRuns.flatMap fun r => r.sources.map fun c => (r.image c, c)
  let byImage := (pairs.mergeSort fun p q => p.1 ≤ q.1).splitBy fun p q => p.1 == q.1
  byImage.map fun group => (group.head?.map (·.1)).toList ++ group.map (·.2)

namespace Extent

/-- The set of some code points. -/
def ofCodes (codes : List Nat) : Extent :=
  ofRanges ((codes.mergeSort (· ≤ ·)).map fun n => (n, n))

/-- The set and all orbits that it meets. -/
def foldCase (s : Extent) : Extent :=
  s.union (ofCodes (orbits.filter (·.any s.contains)).flatten)

end Extent

end AccessDecision.Unicode
