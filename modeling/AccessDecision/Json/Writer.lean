import AccessDecision.Json.Scalar

/-
  Writing JSON

  A writer gives the text of a value in a layout: compact, without any white
  space, or indented by two blanks for each enclosing list or object. Empty lists
  and objects have no line breaks in either.
-/

namespace AccessDecision.Json

/-- A layout; an indented one says how many lists and objects enclose the
value. -/
inductive Layout where
  | compact
  | indented (depth : Nat)
deriving DecidableEq, Repr

/-- The text of a value in a layout. -/
abbrev Writer := Layout → List Char

namespace Layout

/-- The layout inside a list or object. -/
def deeper : Layout → Layout
  | compact => compact
  | indented depth => indented (depth + 1)

/-- What stands before a member or a closing bracket. -/
def lineBreak : Layout → List Char
  | compact => []
  | indented depth => '\n' :: List.replicate (2 * depth) ' '

/-- What stands behind a colon. -/
def gap : Layout → List Char
  | compact => []
  | indented _ => [' ']

end Layout

/-- One hexadecimal digit. -/
def hexDigit (n : Nat) : Char := n.digitChar

/-- A character in a string. -/
def escapeChar (c : Char) : List Char :=
  match c with
  | '"' => ['\\', '"']
  | '\\' => ['\\', '\\']
  | '\x08' => ['\\', 'b']
  | '\x0c' => ['\\', 'f']
  | '\n' => ['\\', 'n']
  | '\r' => ['\\', 'r']
  | '\t' => ['\\', 't']
  | c =>
    if c.toNat < 0x20 then
      ['\\', 'u', '0', '0', hexDigit (c.toNat / 16), hexDigit (c.toNat % 16)]
    else [c]

/-- A string between its quotes. -/
def stringText (s : String) : List Char := '"' :: (s.toList.flatMap escapeChar ++ ['"'])

/-- Writes a string. -/
def writeString (s : String) : Writer := fun _ => stringText s

/-- Members with commas and line breaks between them. -/
def joinMembers (inside : Layout) : List (List Char) → List Char
  | [] => []
  | [member] => inside.lineBreak ++ member
  | member :: rest => inside.lineBreak ++ member ++ ',' :: joinMembers inside rest

/-- Writes a list. -/
def writeList (elements : List Writer) : Writer := fun layout =>
  if elements.isEmpty then ['[', ']']
  else '[' :: (joinMembers layout.deeper (elements.map (· layout.deeper)) ++
    layout.lineBreak ++ [']'])

/-- Writes one member of an object. -/
def writeMember (name : String) (value : Writer) : Writer := fun layout =>
  stringText name ++ ':' :: (layout.gap ++ value layout)

/-- Writes an object. -/
def writeObject (members : List (String × Writer)) : Writer := fun layout =>
  if members.isEmpty then ['\x7b', '\x7d']
  else '\x7b' :: (joinMembers layout.deeper
    (members.map fun m => writeMember m.1 m.2 layout.deeper) ++ layout.lineBreak ++ ['\x7d'])

/-- Writes a scalar. -/
def writeScalar : Scalar → Writer
  | .boolean b => fun _ => if b then ['t', 'r', 'u', 'e'] else ['f', 'a', 'l', 's', 'e']
  | .number n => fun _ => n.text
  | .string s => writeString s

/-- The compact text of a value. -/
def compactText (w : Writer) : String := String.ofList (w .compact)

/-- The indented text of a value. -/
def indentedText (w : Writer) : String := String.ofList (w (.indented 0))

end AccessDecision.Json
