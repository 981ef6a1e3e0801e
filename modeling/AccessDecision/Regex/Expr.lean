import AccessDecision.Regex.CharSet

/-
  Expressions and what they match

  An expression is a tree whose flags are already resolved: whether case counts,
  what a dot stands for and where a line ends is written into its sets and
  assertions. `Spans text e i j` says that `e` matches the piece of `text` from
  position `i` up to position `j`; an expression matches a text if it spans any
  piece of it. Preferences between matches (greedy or not) do not change whether
  there is one, so the tree does not hold them.
-/

namespace AccessDecision.Regex

/-- A condition on a position, decided by the characters on both sides. -/
inductive Look where
  | textStart
  | textEnd
  | lineStart
  | lineEnd
  /-- Like `lineStart`, where a line ends in CR, LF or both. -/
  | lineStartCrlf
  /-- Like `lineEnd`, where a line ends in CR, LF or both. -/
  | lineEndCrlf
  | wordBoundary (ascii : Bool)
  | notWordBoundary (ascii : Bool)
  | wordStart (ascii : Bool)
  | wordEnd (ascii : Bool)
  | wordStartHalf (ascii : Bool)
  | wordEndHalf (ascii : Bool)
deriving DecidableEq, Repr

namespace Look

/-- Whether there is a character and it belongs to a word. -/
def isWord (ascii : Bool) (c : Option Char) : Bool :=
  c.any (if ascii then CharSet.asciiWord else CharSet.word).contains

/-- Whether the condition holds between the character before, if any, and the
character after, if any. -/
def holds : Look → Option Char → Option Char → Bool
  | textStart, before, _ => before.isNone
  | textEnd, _, after => after.isNone
  | lineStart, before, _ => before.isNone || before == some '\n'
  | lineEnd, _, after => after.isNone || after == some '\n'
  | lineStartCrlf, before, after =>
    before.isNone || before == some '\n' || (before == some '\r' && after != some '\n')
  | lineEndCrlf, before, after =>
    after.isNone || after == some '\r' || (after == some '\n' && before != some '\r')
  | wordBoundary a, before, after => isWord a before != isWord a after
  | notWordBoundary a, before, after => isWord a before == isWord a after
  | wordStart a, before, after => !isWord a before && isWord a after
  | wordEnd a, before, after => isWord a before && !isWord a after
  | wordStartHalf a, before, _ => !isWord a before
  | wordEndHalf a, _, after => !isWord a after

/-- The character before a position. -/
def before (text : Array Char) : Nat → Option Char
  | 0 => none
  | i + 1 => text[i]?

/-- Whether the condition holds at a position of a text. -/
def holdsAt (l : Look) (text : Array Char) (i : Nat) : Bool :=
  l.holds (before text i) text[i]?

end Look

/-- A regular expression. -/
inductive Expr where
  | empty
  /-- One character of a set. -/
  | one (set : CharSet)
  | look (l : Look)
  /-- A group of its own, which may capture what it matches. -/
  | group (captures : Bool) (e : Expr)
  | seq (a b : Expr)
  | alt (a b : Expr)
  /-- At least `min` and at most `max` matches in a row; no bound if `max` is
  absent. -/
  | times (e : Expr) (min : Nat) (max : Option Nat)

namespace Expr

/-- A sequence of expressions. -/
def seqs : List Expr → Expr
  | [] => empty
  | [e] => e
  | e :: rest => seq e (seqs rest)

/-- A choice between expressions. -/
def alts : List Expr → Expr
  | [] => empty
  | [e] => e
  | e :: rest => alt e (alts rest)

/-- Whether every match is empty because no character is ever consumed. -/
def isZeroWidth : Expr → Bool
  | empty => true
  | one _ => false
  | look _ => true
  | group _ e => e.isZeroWidth
  | seq a b => a.isZeroWidth && b.isZeroWidth
  | alt a b => a.isZeroWidth && b.isZeroWidth
  | times e _ max => max == some 0 || e.isZeroWidth

/-- Repetition. Where nothing is consumed a second match adds nothing, so the
counts are cut to one. -/
def repeated (e : Expr) (min : Nat) (max : Option Nat) : Expr :=
  if e.isZeroWidth then times e (Nat.min min 1) (some (Nat.min (max.getD 1) 1))
  else times e min max

end Expr

/-- `Spans text e i j`: the expression `e` matches `text` from position `i` to
position `j`. -/
inductive Spans (text : Array Char) : Expr → Nat → Nat → Prop where
  | empty (i : Nat) : Spans text .empty i i
  | one {set : CharSet} {i : Nat} {c : Char} :
      text[i]? = some c → set.contains c = true → Spans text (.one set) i (i + 1)
  | look {l : Look} {i : Nat} : l.holdsAt text i = true → Spans text (.look l) i i
  | group {captures : Bool} {e : Expr} {i j : Nat} :
      Spans text e i j → Spans text (.group captures e) i j
  | seq {a b : Expr} {i j k : Nat} :
      Spans text a i j → Spans text b j k → Spans text (.seq a b) i k
  | altLeft {a b : Expr} {i j : Nat} : Spans text a i j → Spans text (.alt a b) i j
  | altRight {a b : Expr} {i j : Nat} : Spans text b i j → Spans text (.alt a b) i j
  | timesDone {e : Expr} {max : Option Nat} (i : Nat) : Spans text (.times e 0 max) i i
  | timesMore {e : Expr} {min : Nat} {max : Option Nat} {i j k : Nat} :
      max ≠ some 0 → Spans text e i j → Spans text (.times e (min - 1) (max.map (· - 1))) j k →
      Spans text (.times e min max) i k

end AccessDecision.Regex
