import AccessDecision.PolicyError
import AccessDecision.Text.Split

/-
  Compiled patterns

  A pattern is compiled to an anchored expression and carries the time that one
  evaluation may take. Evaluation cannot be interrupted: the time is looked at
  once it is over, and a result that came too late does not count. How long an
  evaluation takes is not for the pattern to know, and the same evaluation may take
  longer at another time, so the times are given by a `Clock`.
-/

namespace AccessDecision

/-- A pattern with its expression. -/
structure CompiledPattern where
  /-- The text it was compiled from. -/
  source : String
  /-- The text of the expression. -/
  regex : String
  expr : Regex.Expr
  /-- The time that one evaluation may take. -/
  budget : Time.Duration

/-- The times that evaluations take, one after the other; each may depend on the pattern
that is evaluated. -/
abbrev Clock := (n : Nat) → CompiledPattern → Time.Duration

/-- The times behind the first `n`. -/
def Clock.drop (clock : Clock) (n : Nat) : Clock := fun i => clock (i + n)

/-- The character that stands for any text in a pattern. -/
def wildcardChar : Char := '*'

/-- Whether a pattern is more than literal text. -/
def isWildcard (pattern : String) : Bool := pattern.toList.contains wildcardChar

namespace CompiledPattern

/-- Compiles an expression. -/
def ofExpression (source : String) (regex : List Char) (budget : Time.Duration) :
    Except PolicyError CompiledPattern :=
  match Regex.compile regex with
  | .error cause => .error (.compile cause)
  | .ok expr => .ok ⟨source, String.ofList regex, expr, budget⟩

/-- The expression that stands for any text, line ends included. -/
def anyText : List Char := ['(', '?', 's', ':', '.', '*', ')']

/-- The literal pieces of a pattern, each escaped, with `anyText` between them. -/
def joinPieces : List (List Char) → List Char
  | [] => []
  | [piece] => Regex.escape piece
  | piece :: rest => Regex.escape piece ++ anyText ++ joinPieces rest

/-- The expression of a wildcard pattern. -/
def wildcardRegex (pattern : List Char) : List Char :=
  '^' :: (joinPieces (Text.fields wildcardChar pattern) ++ ['$'])

/-- Compiles a wildcard pattern. -/
def wildcard (pattern : String) (budget : Time.Duration) : Except PolicyError CompiledPattern :=
  ofExpression pattern (wildcardRegex pattern.toList) budget

/-- Fails if an evaluation took longer than it may. -/
def checkBudget (p : CompiledPattern) (elapsed : Time.Duration) : Except PolicyError Unit :=
  if elapsed ≤ p.budget then .ok () else .error (.matchTimeout p.source elapsed p.budget)

/-- Whether the pattern matches a candidate. The evaluation takes the first time of the
clock. -/
def isMatch (clock : Clock) (p : CompiledPattern) (candidate : String) : Except PolicyError Bool :=
  (p.checkBudget (clock 0 p)).map fun _ => p.expr.isMatch candidate

/-- A description for people who look for faults. -/
def describe (p : CompiledPattern) : String :=
  "CompiledPattern \x7b source: " ++ Text.quote p.source ++ ", regex: " ++ Text.quote p.regex ++
    ", budget: " ++ p.budget.render ++ " \x7d"

end CompiledPattern

end AccessDecision
