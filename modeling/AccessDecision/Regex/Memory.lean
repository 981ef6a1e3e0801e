import AccessDecision.Regex.Encoding
import AccessDecision.Regex.Outline

/-
  The memory of a matching automaton

  An expression is matched by two automata, one that reads a text forward and one
  that reads it backward. Every state takes 32 bytes, with 8 more for each
  transition of a set and 4 more for each way that a choice offers. `Expr.memory`
  is the size of the greater of the two, worked out from the outline.
-/

namespace AccessDecision.Regex

namespace WordTree

/-- The words that go on after their first byte, cut where a word ends: each part
holds the first bytes and the rests of the words between two ends. -/
def cutAtEnds : List (List UInt8) → List (List (UInt8 × List UInt8))
  | [] => [[]]
  | [] :: words => [] :: cutAtEnds words
  | (b :: bs) :: words =>
    match cutAtEnds words with
    | part :: parts => ((b, bs) :: part) :: parts
    | [] => [[(b, bs)]]

/-- The size of the states for the choice between some words, of which not all are
empty and none is longer than `length`: words of one part share the states of
what they have in common at their start. -/
def size : (length : Nat) → List (List UInt8) → Nat
  | 0, _ => 0
  | length + 1, words =>
    let parts := cutAtEnds words
    parts.foldl (fun total part =>
      let firsts := (part.map (·.1)).eraseDups
      let here := match firsts with
        | [] => 0
        | [_] => 36
        | _ => 36 + 8 * firsts.length
      firsts.foldl (fun total b =>
        let rests := (part.filter (·.1 == b)).map (·.2)
        if rests.all List.isEmpty then total else total + size length rests) (total + here))
      (32 + 4 * (parts.length - 1))

end WordTree

namespace Outline

/-- The least number of characters of a match; absent if there may be no match at
all. -/
def leastLength? : Outline → Option Nat
  | empty => some 0
  | literal cs => some cs.length
  | set s => if s = .none then none else some 1
  | look _ => some 0
  | group o => o.leastLength?
  | times o min _ => o.leastLength?.map (· * min)
  | seq a b => do some ((← a.leastLength?) + (← b.leastLength?))
  | alt a b => do some (Nat.min (← a.leastLength?) (← b.leastLength?))

/-- The bytes of a text, in the direction in which they are read. -/
def bytes (backward : Bool) (cs : List Char) : List UInt8 :=
  let bs := cs.flatMap String.utf8EncodeChar
  if backward then bs.reverse else bs

/-- The text of an outline that is one. -/
def literal? : Outline → Option (List Char)
  | literal cs => some cs
  | _ => none

/-- The words of a choice between texts. -/
def words? (backward : Bool) (o : Outline) : Option (List (List UInt8)) :=
  (o.branches.mapM literal?).map (·.map (bytes backward))

/-- The size of a repetition, given the size of one round and whether a round
always reads something. -/
def timesSize (round : Nat) (reads : Bool) : (min : Nat) → (max : Option Nat) → Nat
  | 0, some 1 => 72 + round
  | 0, none => if reads then 40 + round else 112 + round
  | min, none => min * round + 40
  | 0, some max => 64 + max * (40 + round)
  | min, some max => min * round + if min = max then 0 else 32 + (max - min) * (40 + round)

/-- The size of the automaton of an outline; `isRest` says that the outline is the
rest of a choice. -/
def size (backward : Bool) : (isRest : Bool) → Outline → Nat
  | _, empty => 32
  | _, literal cs => 32 * (bytes backward cs).length
  | _, set s => if backward then Encoding.backwardSize s else Encoding.forwardSize s
  | _, look _ => 32
  | _, group o => if backward then o.size backward false else 64 + o.size backward false
  | _, times o min max => timesSize (o.size backward false) (o.leastLength?.any (0 < ·)) min max
  | _, seq a b => a.size backward false + b.size backward false
  | isRest, alt a b =>
    match isRest, words? backward (alt a b) with
    | false, some words => 32 + WordTree.size ((words.map List.length).foldl Nat.max 0) words
    | _, _ =>
      let rest := match b with
        | alt _ _ => b.size backward true
        | _ => 4 + b.size backward false
      (if isRest then 0 else 64) + 4 + a.size backward false + rest

end Outline

namespace Expr

/-- The memory of the automata of an expression, in bytes. Each has a state to
start from and one that reports a match; the forward one also captures the piece
of the text that is matched. -/
def memory (e : Expr) : Nat :=
  let o := e.outline
  Nat.max (128 + o.size false false) (64 + o.size true false)

end Expr

end AccessDecision.Regex
