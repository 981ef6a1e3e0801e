import AccessDecision.Json.Reader

/-
  Scalars

  A scalar is a boolean, a number or a string. Where a scalar is due, a value of
  any kind is read whole, so that its faults of syntax come before the complaint
  that it is no scalar.
-/

namespace AccessDecision.Json

/-- A boolean, number or string. -/
inductive Scalar where
  | boolean (b : Bool)
  | number (n : Number)
  | string (s : String)
deriving DecidableEq, Repr

/-- How deeply lists and objects may nest. -/
def nestingLimit : Nat := 127

/-- Reads a value of any kind, given a reader for the members of lists and
objects unless they would nest too deeply. The result is absent for a value that
is no scalar. -/
def readAnyWith (inner : Option (Reader (Option Scalar))) (cs : List Char) :
    Except Fault (Option Scalar × List Char) :=
  match skipSpace cs with
  | [] => .error (.ended .value)
  | 'n' :: rest => (readLiteral ['u', 'l', 'l'] rest).map fun (_, rest) => (none, rest)
  | 't' :: rest =>
    (readLiteral ['r', 'u', 'e'] rest).map fun (_, rest) => (some (.boolean true), rest)
  | 'f' :: rest =>
    (readLiteral ['a', 'l', 's', 'e'] rest).map fun (_, rest) => (some (.boolean false), rest)
  | '"' :: rest => (readString rest).map fun (s, rest) => (some (.string s), rest)
  | '-' :: rest => (readNumber true rest).map fun (n, rest) => (some (.number n), rest)
  | '[' :: rest =>
    match inner with
    | none => .error .nestingTooDeep
    | some value => (readListBody value rest).map fun (_, rest) => (none, rest)
  | '\x7b' :: rest =>
    match inner with
    | none => .error .nestingTooDeep
    | some value => (readObjectBody (member value) () rest).map fun (_, rest) => (none, rest)
  | c :: rest =>
    if c.isDigit then (readNumber false (c :: rest)).map fun (n, rest) => (some (.number n), rest)
    else .error .expectedValue
where
  member (value : Reader (Option Scalar)) (_ : Unit) (_ : String) (cs : List Char) :
      Except Fault (Unit × List Char) := do
    let (_, rest) ← value (← readColon cs)
    .ok ((), rest)

/-- Reads a value of any kind with at most `levels` lists and objects inside one
another. -/
def readAny : (levels : Nat) → Reader (Option Scalar)
  | 0 => readAnyWith none
  | levels + 1 => readAnyWith (some (readAny levels))

/-- Reads a scalar with at most `levels` lists and objects left to open. -/
def readScalar (levels : Nat) (cs : List Char) : Except Fault (Scalar × List Char) :=
  match readAny levels cs with
  | .error e => .error e
  | .ok (some x, rest) => .ok (x, rest)
  | .ok (none, _) => .error .notScalar

namespace Scalar

/-- The scalar that a text holds. -/
def ofText (text : String) : Except Fault Scalar := readText (readScalar nestingLimit) text

/-- The scalar as text. -/
def asText : Scalar → String
  | boolean b => if b then "true" else "false"
  | number n => String.ofList n.text
  | string s => s

/-- The text of a string; absent for other scalars. -/
def asString? : Scalar → Option String
  | string s => some s
  | _ => none

end Scalar

end AccessDecision.Json
