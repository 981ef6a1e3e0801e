import AccessDecision.Regex.Expr

/-
  Searching a text

  `Expr.reach` follows all matches at once: it takes the positions where a match
  may start to the positions where it may end, both as strictly ascending lists.
  No position is visited twice at one place of the expression, so the work is
  bounded by the product of the two sizes.
-/

namespace AccessDecision.Regex

namespace Positions

/-- Puts `i` into the union that `rest` continues with the second list. -/
def unionCons (i : Nat) (rest : List Nat → List Nat) : List Nat → List Nat
  | [] => i :: rest []
  | j :: js => if j < i then j :: unionCons i rest js else
      if i = j then i :: rest js else i :: rest (j :: js)

/-- The union of two ascending lists. -/
def union : List Nat → List Nat → List Nat
  | [], js => js
  | is, [] => is
  | i :: is, js => unionCons i (union is) js

/-- Applies `step` to the positions `n` times. -/
def iterate (step : List Nat → List Nat) : Nat → List Nat → List Nat
  | 0, is => is
  | n + 1, is => if is.isEmpty then [] else iterate step n (step is)

/-- The positions reached with at most `n` steps. -/
def upTo (step : List Nat → List Nat) : Nat → List Nat → List Nat
  | 0, is => is
  | n + 1, is => if is.isEmpty then [] else union is (upTo step n (step is))

/-- The positions reached with any number of steps. The least position is done
once its steps are added, since a step that stays adds nothing and no step goes
back. -/
def closure (step : List Nat → List Nat) : Nat → List Nat → List Nat
  | 0, is => is
  | _ + 1, [] => []
  | fuel + 1, i :: is => i :: closure step fuel (union is ((step [i]).filter (i < ·)))

end Positions

namespace Expr

/-- The positions where a match may end, given those where it may start. -/
def reach (text : Array Char) : Expr → List Nat → List Nat
  | empty, is => is
  | one set, is => (is.filter fun i => text[i]?.any set.contains).map (· + 1)
  | look l, is => is.filter (l.holdsAt text)
  | group _ e, is => reach text e is
  | seq a b, is => reach text b (reach text a is)
  | alt a b, is => Positions.union (reach text a is) (reach text b is)
  | times e min none, is =>
    Positions.closure (reach text e) (text.size + 1) (Positions.iterate (reach text e) min is)
  | times e min (some max), is =>
    Positions.upTo (reach text e) (max - min) (Positions.iterate (reach text e) min is)

/-- Whether the expression matches a piece of the text. -/
def isMatch (e : Expr) (text : String) : Bool :=
  let chars := text.toList.toArray
  !(e.reach chars (List.range (chars.size + 1))).isEmpty

end Expr

end AccessDecision.Regex
