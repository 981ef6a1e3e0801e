import AccessDecision.Regex.Expr

/-
  Outlines of expressions

  An outline is an expression as its matching automaton is built from it: sets
  are boundaries, neighbouring characters are joined to texts, sequences and
  choices are flat, and choices between sets are sets. Outlines matter only for
  the memory that an expression takes, not for what it matches.
-/

namespace AccessDecision.Regex

open Unicode (Extent)

/-- What an automaton is built from. A sequence or choice holds its first part
and, as the rest, the others; a part of a sequence is no sequence and a part of a
choice is no choice. -/
inductive Outline where
  | empty
  | literal (cs : List Char)
  | set (s : Extent)
  | look (l : Look)
  | group (o : Outline)
  | times (o : Outline) (min : Nat) (max : Option Nat)
  | seq (first rest : Outline)
  | alt (first rest : Outline)

namespace Outline

/-- A set; a set of one character is the text of that character. -/
def ofExtent (s : Extent) : Outline :=
  match s.ranges with
  | [(lo, hi)] => if lo = hi then literal [Char.ofNat lo] else set s
  | _ => set s

/-- A repetition; nothing is left of one that never happens, and of one that
happens once only what is repeated. -/
def repeated (o : Outline) (min : Nat) (max : Option Nat) : Outline :=
  match min, max with
  | 0, some 0 => empty
  | 1, some 1 => o
  | _, _ => times o min max

/-- One outline after the other, with texts joined. -/
def append : Outline → Outline → Outline
  | empty, o => o
  | seq a b, o => a.append (b.append o)
  | a, empty => a
  | literal cs, literal ds => literal (cs ++ ds)
  | literal cs, seq (literal ds) o => seq (literal (cs ++ ds)) o
  | a, o => seq a o

/-- The sequence of some outlines. -/
def ofParts (os : List Outline) : Outline := os.foldr append empty

/-- The parts of a sequence of two or more. -/
def parts? : Outline → Option (List Outline)
  | seq a b => some (a :: (b.parts?).getD [b])
  | _ => none

/-- The branches of a choice; else the outline alone. -/
def branches : Outline → List Outline
  | alt a b => a :: b.branches
  | o => [o]

/-- Whether two outlines are built alike. Two groups are not, since each captures
a piece of its own. -/
def alike : Outline → Outline → Bool
  | empty, empty => true
  | literal cs, literal ds => cs == ds
  | set s, set t => s == t
  | look l, look k => l == k
  | times o min max, times o' min' max' => o.alike o' && min == min' && max == max'
  | seq a b, seq c d => a.alike c && b.alike d
  | alt a b, alt c d => a.alike c && b.alike d
  | _, _ => false

/-- The number of parts that two sequences have in common at their start. -/
def commonParts : List Outline → List Outline → Nat
  | o :: os, p :: ps => if o.alike p then commonParts os ps + 1 else 0
  | _, _ => 0

/-- The character of a text of one. -/
def char? : Outline → Option Char
  | literal [c] => some c
  | _ => none

/-- The boundaries of a set. -/
def extent? : Outline → Option Extent
  | set s => some s
  | _ => none

/-- A choice between branches as they are. -/
def alts : List Outline → Outline
  | [] => set .none
  | [o] => o
  | o :: os => alt o (alts os)

/-- A choice between branches that are no choices. It is a set if all branches are
single characters or all are sets. -/
def joined (os : List Outline) : Outline :=
  match os.mapM char?, os.mapM extent? with
  | some cs, _ => ofExtent (cs.foldl (fun s c => s.union (.single c)) .none)
  | none, some ss => ofExtent (ss.foldl .union .none)
  | none, none => alts os

/-- A choice between sequences that start alike: what they share comes first, once.
Absent if there is nothing to share. -/
def lifted? (os : List Outline) : Option Outline :=
  match os.mapM parts? with
  | some (ps :: rest) =>
    let n := rest.foldl (fun n qs => Nat.min n (commonParts ps qs)) ps.length
    if n = 0 then none
    else
      let ends := (ps :: rest).map fun qs => ofParts (qs.drop n)
      some (ofParts (ps.take n ++ [joined (ends.flatMap branches)]))
  | _ => none

/-- The choice between some outlines. -/
def ofBranches : List Outline → Outline
  | [o] => o
  | os =>
    let flat := os.flatMap branches
    (lifted? flat).getD (joined flat)

end Outline

namespace Expr

/-- The outlines of the branches of a choice; else the outline of the expression
alone. -/
def outlines : Expr → List Outline
  | empty => [.empty]
  | one set => [.ofExtent set.extent]
  | look l => [.look l]
  | group captures e =>
    let o := Outline.ofBranches e.outlines
    [if captures then .group o else o]
  | seq a b => [(Outline.ofBranches a.outlines).append (Outline.ofBranches b.outlines)]
  | alt a b => Outline.ofBranches a.outlines :: b.outlines
  | times e min max => [(Outline.ofBranches e.outlines).repeated min max]

/-- The outline of an expression. -/
def outline (e : Expr) : Outline := .ofBranches e.outlines

end Expr

end AccessDecision.Regex
