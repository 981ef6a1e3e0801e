import AccessDecision.Json.Skip

/-
  Reading JSON of a given shape

  Each reader asks for one shape and reports what it met instead. Lists and
  objects are read member by member, so a fault of shape in an early member comes
  before a fault of syntax in a later one.
-/

namespace AccessDecision.Json

/-- Reads a value of the wrong kind, so as to name it. A scalar is read whole and
its own faults come first. -/
def wrongType {α : Type} (expected : Shape) (cs : List Char) : Except Fault α :=
  match cs with
  | 'n' :: rest => do
    let _ ← readLiteral ['u', 'l', 'l'] rest
    .error (.wrongType .null expected)
  | 't' :: rest => do
    let _ ← readLiteral ['r', 'u', 'e'] rest
    .error (.wrongType (.boolean true) expected)
  | 'f' :: rest => do
    let _ ← readLiteral ['a', 'l', 's', 'e'] rest
    .error (.wrongType (.boolean false) expected)
  | '"' :: rest => do
    let (s, _) ← readString rest
    .error (.wrongType (.string s) expected)
  | '[' :: _ => .error (.wrongType .sequence expected)
  | '\x7b' :: _ => .error (.wrongType .map expected)
  | '-' :: rest => do number (← readNumber true rest).1
  | c :: rest => if c.isDigit then do number (← readNumber false (c :: rest)).1
      else .error .expectedValue
  | [] => .error (.ended .value)
where
  number (n : Number) : Except Fault α :=
    let text := String.ofList n.text
    match n with
    | .integer _ => .error (.wrongType (.integer text) expected)
    | .double _ _ => .error (.wrongType (.double text) expected)

/-- Reads a string. -/
def readStringValue (cs : List Char) : Except Fault (String × List Char) :=
  match skipSpace cs with
  | [] => .error (.ended .value)
  | '"' :: rest => readString rest
  | rest => wrongType .string rest

/-! ## Lists -/

/-- Whether a list goes on, from behind its bracket or its latest element. -/
def moreElements (first : Bool) (cs : List Char) : Except Fault (Bool × List Char) :=
  match skipSpace cs with
  | [] => .error (.ended .list)
  | ']' :: rest => .ok (false, ']' :: rest)
  | c :: rest =>
    if first then .ok (true, c :: rest)
    else if c = ',' then
      match skipSpace rest with
      | [] => .error (.ended .value)
      | ']' :: _ => .error .trailingComma
      | rest => .ok (true, rest)
    else .error .expectedListSeparator

/-- Reads the end of a list whose elements are all read. -/
def readListEnd (cs : List Char) : Except Fault (List Char) :=
  match skipSpace cs with
  | [] => .error (.ended .list)
  | ']' :: rest => .ok rest
  | ',' :: rest =>
    match skipSpace rest with
    | ']' :: _ => .error .trailingComma
    | _ => .error .trailingCharacters
  | _ => .error .trailingCharacters

/-- Reads the elements of a list after those read so far, latest first. -/
def readElements {α : Type} (element : Reader α) : (fuel : Nat) → (first : Bool) →
    (read : List α) → Reader (List α)
  | 0, _, _, _ => .error (.ended .list)
  | fuel + 1, first, read, cs =>
    match moreElements first cs with
    | .error e => .error e
    | .ok (false, rest) => .ok (read.reverse, rest)
    | .ok (true, rest) =>
      match element rest with
      | .error e => .error e
      | .ok (x, rest) => readElements element fuel false (x :: read) rest

/-- Reads a list from behind its bracket. -/
def readListBody {α : Type} (element : Reader α) (cs : List Char) :
    Except Fault (List α × List Char) := do
  let (xs, rest) ← readElements element (cs.length + 1) true [] cs
  .ok (xs, ← readListEnd rest)

/-- Reads a list. -/
def readList {α : Type} (element : Reader α) (cs : List Char) :
    Except Fault (List α × List Char) :=
  match skipSpace cs with
  | [] => .error (.ended .value)
  | '[' :: rest => readListBody element rest
  | rest => wrongType .sequence rest

/-! ## Objects -/

/-- Reads the next key of an object, if the object goes on. -/
def readKey? (first : Bool) (cs : List Char) : Except Fault (Option String × List Char) :=
  match skipSpace cs with
  | [] => .error (.ended .object)
  | '\x7d' :: rest => .ok (none, rest)
  | c :: rest =>
    if first then key (c :: rest)
    else if c = ',' then
      match skipSpace rest with
      | [] => .error (.ended .value)
      | '\x7d' :: _ => .error .trailingComma
      | rest => key rest
    else .error .expectedObjectSeparator
where
  key : List Char → Except Fault (Option String × List Char)
    | '"' :: rest => do
      let (s, rest) ← readString rest
      .ok (some s, rest)
    | _ => .error .keyNotString

/-- Reads the colon behind a key. -/
def readColon (cs : List Char) : Except Fault (List Char) :=
  match skipSpace cs with
  | [] => .error (.ended .object)
  | ':' :: rest => .ok rest
  | _ => .error .expectedColon

/-- Reads the members of an object. `member` is given what the members so far
came to and the key just read, and reads from before the colon. -/
def readMembers {σ : Type} (member : σ → String → Reader σ) : (fuel : Nat) → (first : Bool) →
    σ → Reader σ
  | 0, _, _, _ => .error (.ended .object)
  | fuel + 1, first, state, cs =>
    match readKey? first cs with
    | .error e => .error e
    | .ok (none, rest) => .ok (state, rest)
    | .ok (some key, rest) =>
      match member state key rest with
      | .error e => .error e
      | .ok (state, rest) => readMembers member fuel false state rest

/-- Reads an object from behind its brace. -/
def readObjectBody {σ : Type} (member : σ → String → Reader σ) (start : σ) (cs : List Char) :
    Except Fault (σ × List Char) :=
  readMembers member (cs.length + 1) true start cs

/-- Reads an object as its members in the order written, names repeated where the
text repeats them. -/
def readObject {α : Type} (value : Reader α) (cs : List Char) :
    Except Fault (List (String × α) × List Char) :=
  match skipSpace cs with
  | [] => .error (.ended .value)
  | '\x7b' :: rest => do
    let (members, rest) ← readObjectBody member [] rest
    .ok (members.reverse, rest)
  | rest => wrongType .map rest
where
  member (read : List (String × α)) (key : String) (cs : List Char) :
      Except Fault (List (String × α) × List Char) := do
    let (x, rest) ← value (← readColon cs)
    .ok ((key, x) :: read, rest)

/-! ## Whole texts -/

/-- Reads a text that holds one value and white space. -/
def readText {α : Type} (value : Reader α) (text : String) : Except Fault α := do
  let (x, rest) ← value text.toList
  if (skipSpace rest).isEmpty then .ok x else .error .trailingCharacters

end AccessDecision.Json
