import AccessDecision.Text.Quoted

/-
  What can be wrong with a JSON text

  A text is read from left to right and the first fault met is reported, whether
  the text is no JSON at all, ends too early, or does not have the shape that is
  asked for.
-/

namespace AccessDecision.Json

/-- A part of a text that its end cut short. -/
inductive Part where
  | value | object | list | string
deriving DecidableEq, Repr

/-- The kind of a value that was met, with its text where it is a scalar. -/
inductive Found where
  | null
  | boolean (b : Bool)
  | integer (text : String)
  | double (text : String)
  | string (s : String)
  | sequence
  | map
deriving DecidableEq, Repr

/-- The shape that was asked for. -/
inductive Shape where
  | map
  | sequence
  | string
  | unit
  | variantName
  | record (name : String)
deriving DecidableEq, Repr

/-- A fault in a JSON text. -/
inductive Fault where
  | ended (inside : Part)
  | expectedValue
  | expectedLiteral
  | expectedColon
  | expectedListSeparator
  | expectedObjectSeparator
  | keyNotString
  | trailingComma
  | trailingCharacters
  | invalidNumber
  | numberOutOfRange
  | invalidEscape
  | controlCharacter
  | loneSurrogate
  | unpairedSurrogate
  | nestingTooDeep
  | wrongType (found : Found) (expected : Shape)
  | notScalar
  | missingField (name : String)
  | duplicateField (name : String)
  | unknownVariant (name : String) (known : List String)
  | tooFewElements (count : Nat) (record : String) (fields : Nat)
deriving DecidableEq, Repr

/-- The classes of faults. -/
inductive Category where
  | syntaxError | data | eof
deriving DecidableEq, Repr

/-- The name of a part. -/
def Part.describe : Part → String
  | value => "a value"
  | object => "an object"
  | list => "a list"
  | string => "a string"

/-- A text between backquotes. -/
def ticked (s : String) : String := "`" ++ s ++ "`"

/-- The name of what was met. -/
def Found.describe : Found → String
  | null => "null"
  | boolean b => "boolean " ++ ticked (if b then "true" else "false")
  | integer text => "integer " ++ ticked text
  | double text => "floating point " ++ ticked text
  | string s => "string " ++ Text.quote s
  | sequence => "sequence"
  | map => "map"

/-- The name of what was asked for. -/
def Shape.describe : Shape → String
  | map => "a map"
  | sequence => "a sequence"
  | string => "a string"
  | unit => "unit"
  | variantName => "variant identifier"
  | record name => "struct " ++ name

namespace Fault

/-- The class of a fault: ended too early, wrong shape, or no JSON. -/
def category : Fault → Category
  | ended _ => .eof
  | wrongType _ _ | notScalar | missingField _ | duplicateField _ | unknownVariant _ _
  | tooFewElements _ _ _ => .data
  | _ => .syntaxError

/-- The message of a fault. -/
def message : Fault → String
  | ended part => "EOF while parsing " ++ part.describe
  | expectedValue => "expected value"
  | expectedLiteral => "expected ident"
  | expectedColon => "expected " ++ ticked ":"
  | expectedListSeparator => "expected " ++ ticked "," ++ " or " ++ ticked "]"
  | expectedObjectSeparator => "expected " ++ ticked "," ++ " or " ++ ticked "\x7d"
  | keyNotString => "key must be a string"
  | trailingComma => "trailing comma"
  | trailingCharacters => "trailing characters"
  | invalidNumber => "invalid number"
  | numberOutOfRange => "number out of range"
  | invalidEscape => "invalid escape"
  | controlCharacter => "control character (\\u0000-\\u001F) found while parsing a string"
  | loneSurrogate => "lone leading surrogate in hex escape"
  | unpairedSurrogate => "unexpected end of hex escape"
  | nestingTooDeep => "recursion limit exceeded"
  | wrongType found expected =>
    "invalid type: " ++ found.describe ++ ", expected " ++ expected.describe
  | notScalar => "data did not match any variant of untagged enum ContextValue"
  | missingField name => "missing field " ++ ticked name
  | duplicateField name => "duplicate field " ++ ticked name
  | unknownVariant name known =>
    "unknown variant " ++ ticked name ++ ", expected " ++
      String.intercalate " or " (known.map ticked)
  | tooFewElements count record fields =>
    "invalid length " ++ toString count ++ ", expected struct " ++ record ++ " with " ++
      toString fields ++ " elements"

end Fault

end AccessDecision.Json
