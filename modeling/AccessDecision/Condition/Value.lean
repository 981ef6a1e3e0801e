import AccessDecision.Json.Scalar
import AccessDecision.Text.Split

/-
  Attribute values

  What a request says about one attribute: a boolean, a number or a string. The
  views say how a value reads as an integer or a boolean, and how a text does.
-/

namespace AccessDecision.Condition

/-- The value of a request attribute. -/
abbrev Value := Json.Scalar

/-- The integer in 64 bits that a text is: decimal digits, with a sign if it
likes. -/
def integerOfText? (text : String) : Option Int :=
  match text.toList with
  | '-' :: digits => (Text.decimal? digits).bind fun n =>
    if n ≤ Json.Number.maxSigned + 1 then some (-n) else none
  | '+' :: digits => positive digits
  | digits => positive digits
where
  positive (digits : List Char) : Option Int := (Text.decimal? digits).bind fun n =>
    if n ≤ Json.Number.maxSigned then some n else none

/-- The boolean that a text is. -/
def boolOfText? : String → Option Bool
  | "true" => some true
  | "false" => some false
  | _ => none

/-- The value as an integer: a whole number in range, or a text that is one. -/
def asInteger? : Value → Option Int
  | .number n => n.asInteger
  | .string s => integerOfText? s
  | .boolean _ => none

/-- The value as a boolean. -/
def asBool? : Value → Option Bool
  | .boolean b => some b
  | .string s => boolOfText? s
  | .number _ => none

end AccessDecision.Condition
