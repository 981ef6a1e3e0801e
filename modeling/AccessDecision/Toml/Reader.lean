import AccessDecision.Toml.Scalar

/-
  Reading TOML

  A text is read line by line into a document. There is one kind of failure, so
  the readers are partial in the sense of `Option`; each gives back what it read
  and the rest.
-/

namespace AccessDecision.Toml

/-- A reader of TOML text. -/
abbrev Reader (α : Type) := List Char → Option (α × List Char)

/-- How deeply arrays and inline tables may nest, and one more than the names in
a dotted name. -/
def nestingLimit : Nat := 80

/-- Drops blanks and tabs. -/
def skipBlanks (cs : List Char) : List Char := cs.dropWhile fun c => c == ' ' || c == '\t'

/-- Whether a character may stand in comments and literal strings: no control
but the tab. -/
def isPlain (c : Char) : Bool := c == '\t' || (0x20 ≤ c.toNat && c.toNat != 0x7F)

/-- What follows the end of a line, if the text is at one. -/
def afterLineEnd? : List Char → Option (List Char)
  | '\n' :: rest => some rest
  | '\r' :: '\n' :: rest => some rest
  | _ => none

/-- Drops a comment if there is one. -/
def skipComment (cs : List Char) : List Char :=
  match cs with
  | '#' :: rest => rest.dropWhile isPlain
  | _ => cs

/-- Reads the end of a line, behind blanks and perhaps a comment. The text may
end instead. -/
def readLineEnd (cs : List Char) : Option (List Char) :=
  match skipComment (skipBlanks cs) with
  | [] => some []
  | rest => afterLineEnd? rest

/-! ## Strings -/

/-- Reads so many hexadecimal digits. -/
def readHex : (digits : Nat) → (value : Nat) → Reader Nat
  | 0, value, cs => some (value, cs)
  | _ + 1, _, [] => none
  | n + 1, value, c :: rest => (digit? 16 c).bind fun d => readHex n (value * 16 + d) rest

/-- The character of a code point. -/
def charOf? (n : Nat) : Option Char := if n.isValidChar then some (Char.ofNat n) else none

/-- Reads an escape sequence behind its backslash. -/
def readEscape : Reader Char
  | 'b' :: rest => some ('\x08', rest)
  | 't' :: rest => some ('\t', rest)
  | 'n' :: rest => some ('\n', rest)
  | 'f' :: rest => some ('\x0c', rest)
  | 'r' :: rest => some ('\r', rest)
  | '"' :: rest => some ('"', rest)
  | '\\' :: rest => some ('\\', rest)
  | 'u' :: rest => do
    let (n, rest) ← readHex 4 0 rest
    pure (← charOf? n, rest)
  | 'U' :: rest => do
    let (n, rest) ← readHex 8 0 rest
    pure (← charOf? n, rest)
  | _ => none

/-- Reads the characters of a string on one line after those read so far, latest
first. Backslashes escape in a string between double quotes. -/
def readLine (quote : Char) : (fuel : Nat) → (read : List Char) → Reader String
  | 0, _, _ | _ + 1, _, [] => none
  | fuel + 1, read, c :: rest =>
    if c = quote then some (String.ofList read.reverse, rest)
    else if c = '\\' ∧ quote = '"' then do
      let (c, rest) ← readEscape rest
      readLine quote fuel (c :: read) rest
    else if isPlain c then readLine quote fuel (c :: read) rest
    else none

/-- Drops blanks, tabs and ends of lines. -/
def skipLines : (fuel : Nat) → List Char → List Char
  | 0, cs => cs
  | fuel + 1, cs =>
    match afterLineEnd? (skipBlanks cs) with
    | some rest => skipLines fuel rest
    | none => skipBlanks cs

/-- Reads the rest of a string of several lines. Up to two quotes in a row belong
to it, also in front of the three that end it. A backslash at the end of a line
joins it to the next text. -/
def readBlock (quote : Char) : (fuel : Nat) → Reader Unit
  | 0, _ | _ + 1, [] => none
  | fuel + 1, c :: rest =>
    if c = quote then
      let quotes := ((c :: rest).takeWhile (· == quote)).length
      let after := (c :: rest).dropWhile (· == quote)
      if quotes < 3 then readBlock quote fuel after
      else if quotes ≤ 5 then some ((), after)
      else none
    else if c = '\\' ∧ quote = '"' then
      match afterLineEnd? (skipBlanks rest) with
      | some next => readBlock quote fuel (skipLines next.length next)
      | none => (readEscape rest).bind fun (_, rest) => readBlock quote fuel rest
    else if isPlain c then readBlock quote fuel rest
    else (afterLineEnd? (c :: rest)).bind (readBlock quote fuel)

/-- Reads a string of either kind of quotes. -/
def readString (cs : List Char) : Option (Value × List Char) :=
  match cs with
  | '"' :: '"' :: '"' :: rest => (readBlock '"' (rest.length + 1) rest).map fun r => (.other, r.2)
  | '\'' :: '\'' :: '\'' :: rest =>
    (readBlock '\'' (rest.length + 1) rest).map fun r => (.other, r.2)
  | '"' :: rest => (readLine '"' (rest.length + 1) [] rest).map fun r => (.other, r.2)
  | '\'' :: rest => (readLine '\'' (rest.length + 1) [] rest).map fun r => (.other, r.2)
  | _ => none

/-! ## Names -/

/-- Whether a character may stand in a name without quotes. -/
def isBareChar (c : Char) : Bool := c.isAlphanum || c == '_' || c == '-'

/-- Reads one name. -/
def readName (cs : List Char) : Option (String × List Char) :=
  match cs with
  | '"' :: rest => readLine '"' (rest.length + 1) [] rest
  | '\'' :: rest => readLine '\'' (rest.length + 1) [] rest
  | _ =>
    match cs.takeWhile isBareChar with
    | [] => none
    | name => some (String.ofList name, cs.dropWhile isBareChar)

/-- Reads names with points between them, as the path to the last and the last.
Blanks may stand around each name. -/
def readPath : (fuel : Nat) → (path : List String) → Reader (List String × String)
  | 0, _, _ => none
  | fuel + 1, path, cs => do
    let (name, rest) ← readName (skipBlanks cs)
    match skipBlanks rest with
    | '.' :: rest => readPath fuel (name :: path) rest
    | rest => pure ((path.reverse, name), rest)

/-- Reads a name, dotted or not. -/
def readKey (cs : List Char) : Option ((List String × String) × List Char) :=
  readPath (nestingLimit - 1) [] cs

/-! ## Values -/

/-- Drops blanks, ends of lines and comments. -/
def skipFiller : (fuel : Nat) → List Char → List Char
  | 0, cs => cs
  | fuel + 1, cs =>
    let cs := skipBlanks cs
    match cs with
    | '#' :: _ =>
      match afterLineEnd? (skipComment cs) with
      | some rest => skipFiller fuel rest
      | none => cs
    | _ =>
      match afterLineEnd? cs with
      | some rest => skipFiller fuel rest
      | none => cs

/-- Reads the elements of an array up to its closing bracket. A comma may follow
the last. -/
def readElements (value : Reader Value) : (fuel : Nat) → Reader Unit
  | 0, _ => none
  | fuel + 1, cs =>
    match skipFiller cs.length cs with
    | ']' :: rest => some ((), rest)
    | cs => do
      let (_, rest) ← value cs
      match skipFiller rest.length rest with
      | ',' :: rest => readElements value fuel rest
      | ']' :: rest => some ((), rest)
      | _ => none

/-- Reads a name and its value. -/
def readPair (value : Reader Value) (cs : List Char) :
    Option ((List String × String × Value) × List Char) := do
  let ((path, name), rest) ← readKey cs
  match rest with
  | '=' :: rest =>
    let (v, rest) ← value (skipBlanks rest)
    pure ((path, name, v), rest)
  | _ => none

/-- Reads the pairs of an inline table up to its closing brace. -/
def readPairs (value : Reader Value) : (fuel : Nat) → Entries → Reader Unit
  | 0, _, _ => none
  | fuel + 1, entries, cs => do
    let ((path, name, v), rest) ← readPair value cs
    let entries ← setValue path name v entries
    match skipBlanks rest with
    | ',' :: rest => readPairs value fuel entries rest
    | '\x7d' :: rest => some ((), rest)
    | _ => none

/-- Reads a value, given a reader for the values inside it. -/
def readValueWith (inner : Option (Reader Value)) (cs : List Char) : Option (Value × List Char) :=
  match cs with
  | '"' :: _ | '\'' :: _ => readString cs
  | '[' :: rest => do
    let (_, rest) ← readElements (← inner) (rest.length + 1) rest
    pure (.other, rest)
  | '\x7b' :: rest =>
    match skipBlanks rest with
    | '\x7d' :: rest => inner.map fun _ => (.other, rest)
    | rest => do
      let (_, rest) ← readPairs (← inner) (rest.length + 1) [] rest
      pure (.other, rest)
  | _ => readScalar cs

/-- Reads a value with at most `levels` arrays and inline tables inside one
another. -/
def readValue : (levels : Nat) → Reader Value
  | 0 => readValueWith none
  | levels + 1 => readValueWith (some (readValue levels))

/-! ## Lines -/

/-- Reads a header behind its opening bracket. -/
def readHeader (d : Document) (cs : List Char) : Option (Document × List Char) :=
  match cs with
  | '[' :: rest => do
    let ((path, name), rest) ← readKey rest
    match rest with
    | ']' :: ']' :: rest => pure (← d.openHeader true path name, rest)
    | _ => none
  | rest => do
    let ((path, name), rest) ← readKey rest
    match rest with
    | ']' :: rest => pure (← d.openHeader false path name, rest)
    | _ => none

/-- Reads one line and its end. -/
def readEntry (d : Document) (cs : List Char) : Option (Document × List Char) :=
  match skipBlanks cs with
  | '[' :: rest => do
    let (d, rest) ← readHeader d rest
    pure (d, ← readLineEnd rest)
  | rest =>
    match readLineEnd rest with
    | some rest => some (d, rest)
    | none => do
      let ((path, name, v), rest) ← readPair (readValue (nestingLimit - 1)) rest
      pure (← d.set path name v, ← readLineEnd rest)

/-- Reads all lines. The fuel counts characters: every line but the last has
one. -/
def readEntries : (fuel : Nat) → Document → List Char → Option Document
  | _, d, [] => some d
  | 0, _, _ => none
  | fuel + 1, d, cs => (readEntry d cs).bind fun (d, rest) => readEntries fuel d rest

/-- The character that may mark the start of a text. -/
def byteOrderMark : Char := '\uFEFF'

/-- The entries of the document that a text holds. -/
def parse (text : String) : Option Entries :=
  let cs := match text.toList with
    | c :: rest => if c = byteOrderMark then rest else c :: rest
    | [] => []
  (readEntries (cs.length + 1) Document.start cs).map (·.entries)

end AccessDecision.Toml
