import AccessDecision.Regex.Memory
import AccessDecision.Regex.Parser
import AccessDecision.Regex.Search

/-
  Expressions within bounds

  An expression is accepted only if the memory of its matching automata stays
  within a bound.
-/

namespace AccessDecision.Regex

/-- The greatest memory of an expression that is accepted, in bytes. -/
def sizeLimit : Nat := 2 ^ 20

/-- Why an expression is not accepted. -/
inductive CompileError where
  | syntaxError (e : SyntaxError)
  | tooBig (limit : Nat)
deriving DecidableEq, Repr

/-- The expression that a text stands for, if it stays within the limit. -/
def compile (text : List Char) : Except CompileError Expr :=
  match parse text with
  | .error e => .error (.syntaxError e)
  | .ok e => if e.memory ≤ sizeLimit then .ok e else .error (.tooBig sizeLimit)

end AccessDecision.Regex
