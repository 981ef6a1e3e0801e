import AccessDecision.Regex.Token

/-
  From text to expression

  The parser keeps the groups that are open on a stack and works off one token at
  a time. What a token does depends on the innermost group alone, so a piece of
  text that closes every group it opens acts alike wherever it stands, as long as
  the same flags are in force.
-/

namespace AccessDecision.Regex

/-- An item of a sequence. A change of flags takes a place in the sequence, but
matches nothing and cannot be repeated. -/
structure Piece where
  expr : Expr
  depth : Nat
  repeatable : Bool := true

/-- A sequence and choices that are not finished: the branches before the current
one and the items of the current one, latest first. -/
structure Level where
  branches : List Piece := []
  items : List Piece := []

namespace Piece

/-- The greatest depth among some pieces. -/
def maxDepth (ps : List Piece) : Nat := (ps.map (·.depth)).foldl Nat.max 0

/-- The sequence of the items, latest first. A sequence of two or more nests. -/
def ofItems (items : List Piece) : Piece :=
  match items with
  | [] => ⟨.empty, 0, true⟩
  | [p] => p
  | ps => ⟨.seqs (ps.reverse.map (·.expr)), maxDepth ps + 1, true⟩

/-- The choice between the branches, latest first. A choice of two or more
nests. -/
def ofBranches (branches : List Piece) : Piece :=
  match branches with
  | [] => ⟨.empty, 0, true⟩
  | [p] => p
  | ps => ⟨.alts (ps.reverse.map (·.expr)), maxDepth ps + 1, true⟩

end Piece

namespace Level

/-- Adds an item. -/
def push (l : Level) (p : Piece) : Level := { l with items := p :: l.items }

/-- Starts the next branch. -/
def bar (l : Level) : Level := ⟨Piece.ofItems l.items :: l.branches, []⟩

/-- What the level stands for once it is finished. -/
def finish (l : Level) : Piece := Piece.ofBranches l.bar.branches

/-- Repeats the latest item. -/
def repeatLast (l : Level) (min : Nat) (max : Option Nat) : Except SyntaxError Level :=
  match l.items with
  | p :: rest =>
    if p.repeatable then
      .ok { l with items := ⟨p.expr.repeated min max, p.depth + 1, true⟩ :: rest }
    else .error .repetitionWithoutItem
  | [] => .error .repetitionWithoutItem

end Level

/-- An open group: whether it captures, and the level around it with its
flags. -/
structure OpenGroup where
  captures : Bool
  flags : Flags
  level : Level

/-- The parser between two tokens: the flags in force, the names given so far,
the current level and the groups that are open, innermost first. -/
structure State where
  flags : Flags := {}
  names : List (List Char) := []
  level : Level := {}
  outer : List OpenGroup := []

namespace State

/-- Works off one token. -/
def step (s : State) : Token → Except SyntaxError State
  | .item e depth => .ok { s with level := s.level.push ⟨e, depth, true⟩ }
  | .times min max => (s.level.repeatLast min max).map fun l => { s with level := l }
  | .open captures none flags =>
    .ok { s with flags := flags, level := {}, outer := ⟨captures, s.flags, s.level⟩ :: s.outer }
  | .open captures (some name) flags =>
    if s.names.contains name then .error .groupNameRepeated
    else
      .ok { flags := flags, names := name :: s.names, level := {},
            outer := ⟨captures, s.flags, s.level⟩ :: s.outer }
  | .setFlags flags => .ok { s with flags := flags, level := s.level.push ⟨.empty, 0, false⟩ }
  | .close =>
    match s.outer with
    | [] => .error .groupUnopened
    | g :: outer =>
      let inner := s.level.finish
      .ok { s with
        flags := g.flags
        level := g.level.push ⟨.group g.captures inner.expr, inner.depth + 1, true⟩
        outer := outer }
  | .bar => .ok { s with level := s.level.bar }

/-- Works off a whole text. The fuel counts characters: every token takes at
least one. -/
def run : (fuel : Nat) → State → List Char → Except SyntaxError State
  | 0, _, _ => .error .groupUnclosed
  | fuel + 1, s, cs =>
    match skipBlanks s.flags cs with
    | [] => .ok s
    | rest =>
      match readToken s.flags rest with
      | .error e => .error e
      | .ok (token, rest) =>
        match s.step token with
        | .error e => .error e
        | .ok s => run fuel s rest

end State

/-- How deeply an expression may nest. -/
def depthLimit : Nat := 250

/-- The expression that a text stands for. -/
def parse (text : List Char) : Except SyntaxError Expr :=
  match State.run (text.length + 1) {} text with
  | .error e => .error e
  | .ok s =>
    if s.outer.isEmpty then
      let piece := s.level.finish
      if piece.depth ≤ depthLimit then .ok piece.expr else .error .nestingTooDeep
    else .error .groupUnclosed

end AccessDecision.Regex
