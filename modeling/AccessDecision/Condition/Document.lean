import AccessDecision.Condition.Value
import AccessDecision.Json.Writer
import AccessDecision.KeyMap

/-
  Condition and context documents

  A condition holds, under operator names, the acceptable texts of attributes. A
  context holds the values of the attributes of one request. Both are written in
  JSON; where a name occurs twice in one object, the later member counts.
  `Written` is a condition as its text has it, with every member it repeats.
-/

namespace AccessDecision

/-- The acceptable texts of attributes, by operator name and attribute key. -/
abbrev Condition := KeyMap (KeyMap (List String))

/-- The attributes of a request. -/
abbrev Context := KeyMap Condition.Value

namespace Condition

/-- A condition as its members are written. -/
abbrev Written := List (String × List (String × List String))

/-- The condition that the written members come to. -/
def ofWritten (w : Written) : Condition :=
  KeyMap.ofList (w.map fun block => (block.1, KeyMap.ofList block.2))

/-- Reads the members of a condition. -/
def readWritten (cs : List Char) : Except Json.Fault (Written × List Char) :=
  Json.readObject (Json.readObject (Json.readList Json.readStringValue)) cs

/-- Reads a condition. -/
def read (cs : List Char) : Except Json.Fault (Condition × List Char) :=
  (readWritten cs).map fun (w, rest) => (ofWritten w, rest)

/-- The members that a text writes. -/
def writtenOfText (text : String) : Except Json.Fault Written := Json.readText readWritten text

/-- The condition that a text holds. -/
def ofText (text : String) : Except Json.Fault Condition := Json.readText read text

/-- Writes a condition. -/
def write (c : Condition) : Json.Writer :=
  Json.writeObject (c.entries.map fun block => (block.1,
    Json.writeObject (block.2.entries.map fun entry => (entry.1,
      Json.writeList (entry.2.map Json.writeString)))))

end Condition

namespace Context

/-- How deeply a value in a context may nest, counting from inside. -/
def valueLevels : Nat := Json.nestingLimit - 1

/-- Reads the members of a context. -/
def readWritten (cs : List Char) :
    Except Json.Fault (List (String × Condition.Value) × List Char) :=
  Json.readObject (Json.readScalar valueLevels) cs

/-- Reads a context. -/
def read (cs : List Char) : Except Json.Fault (Context × List Char) :=
  (readWritten cs).map fun (members, rest) => (KeyMap.ofList members, rest)

/-- The context that a text holds. -/
def ofText (text : String) : Except Json.Fault Context := Json.readText read text

/-- Writes a context. -/
def write (c : Context) : Json.Writer :=
  Json.writeObject (c.entries.map fun e => (e.1, Json.writeScalar e.2))

end Context

end AccessDecision
