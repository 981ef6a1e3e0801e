import AccessDecision.Regex.Expr
import AccessDecision.Regex.Literal
import AccessDecision.Regex.Reading
import AccessDecision.Text.Split

/-
  Escape sequences

  What follows a backslash: a character, a set of characters or an assertion,
  already resolved under the flags in force.
-/

namespace AccessDecision.Regex

/-- What an escape sequence stands for. -/
inductive Escaped where
  | char (c : Char)
  | set (s : CharSet)
  | look (l : Look)

/-- Closes a set under case if case is ignored. -/
def foldUnder (flags : Flags) (s : CharSet) : CharSet :=
  if flags.ignoreCase then (if flags.unicode then .foldCase s else .foldAscii s) else s

/-- Refuses a set that cannot be one of characters: without Unicode a set ranges
over bytes, and only those below 128 are characters. -/
def checkText (flags : Flags) (s : CharSet) : Except SyntaxError CharSet :=
  if !flags.unicode && s.hasHighByte then .error .notText else .ok s

/-- A class by its letter: decimal digits, white space, word characters, and in
upper case everything else. -/
def letterClass (flags : Flags) (letter : Char) : Except SyntaxError CharSet :=
  let base := match letter.toLower with
    | 'd' => if flags.unicode then CharSet.digit else CharSet.asciiDigit
    | 's' => if flags.unicode then CharSet.space else CharSet.asciiSpace
    | _ => if flags.unicode then CharSet.word else CharSet.asciiWord
  checkText flags (CharSet.negateIf letter.isUpper base)

/-- Splits a braced name at the first sign that sets a value apart, and says
whether the sign is one of inequality. That sign is looked for before the others,
and a colon before an equals sign. -/
def splitProperty (name : List Char) : Option (Bool × List Char × List Char) :=
  let rec unequal : List Char → List Char → Option (List Char × List Char)
    | _, [] => none
    | read, '!' :: '=' :: rest => some (read.reverse, rest)
    | read, c :: rest => unequal (c :: read) rest
  ((unequal [] name).map (true, ·)).or
    (((Text.cutAt ':' name).or (Text.cutAt '=' name)).map (false, ·))

/-- The set of a property given in braces. The letter before the braces negates,
and so does a sign of inequality. -/
def propertySet (flags : Flags) (negated : Bool) (name : List Char) :
    Except SyntaxError CharSet :=
  let found := match splitProperty name with
    | some (unequal, n, v) => (Unicode.namedWithValue? n v).map (negated != unequal, ·)
    | none => (Unicode.named? name).map (negated, ·)
  match found with
  | none => .error .propertyUnknown
  | some (negated, s) =>
    if flags.unicode then .ok (CharSet.negateIf negated (foldUnder flags (.named s)))
    else .error .notText

/-- Reads a property after its letter. -/
def readProperty (flags : Flags) (negated : Bool) (cs : List Char) :
    Except SyntaxError (CharSet × List Char) :=
  match skipBlanks flags cs with
  | [] => .error .escapeUnfinished
  | '\x7b' :: rest => do
    let (name, rest) ← readBraced flags (rest.length + 1) [] (skipBlanks flags rest)
    .ok (← propertySet flags negated name, rest)
  | '\\' :: _ => .error .propertyUnknown
  | c :: rest => do .ok (← propertySet flags negated [c], skipBlanks flags rest)

/-- Reads a code point after its letter: so many digits, or any number of them in
braces. -/
def readCode (flags : Flags) (digits : Nat) (cs : List Char) :
    Except SyntaxError (Char × List Char) :=
  match skipBlanks flags cs with
  | [] => .error .escapeUnfinished
  | '\x7b' :: rest => do
    let (n, rest) ← readHexBraced flags (rest.length + 1) none (skipBlanks flags rest)
    .ok (← charOfCode n, rest)
  | rest => do
    let (n, rest) ← readHexDigits flags digits 0 rest
    let c ← charOfCode n
    -- Two digits name a byte, which without Unicode need not be a character.
    if digits = 2 ∧ flags.unicode = false ∧ 0x80 ≤ n then .error .notText else .ok (c, rest)

/-- The characters of the name of a special boundary. -/
def isBoundaryChar (c : Char) : Bool := c.isAlpha || c == '-'

/-- Reads the name of a special boundary up to what cannot belong to it. -/
def readBoundaryName (flags : Flags) : (fuel : Nat) → (read : List Char) → List Char →
    List Char × List Char
  | 0, read, cs => (read.reverse, cs)
  | _ + 1, read, [] => (read.reverse, [])
  | fuel + 1, read, c :: rest =>
    if isBoundaryChar c then readBoundaryName flags fuel (c :: read) (skipBlanks flags rest)
    else (read.reverse, c :: rest)

/-- Reads a word boundary after its letter. A brace that follows names a special
boundary, unless it can only be the start of a count. -/
def readBoundary (flags : Flags) (cs : List Char) : Except SyntaxError (Look × List Char) :=
  let ascii := !flags.unicode
  match cs with
  | '\x7b' :: rest =>
    match skipBlanks flags rest with
    | [] => .error .boundaryUnknown
    | c :: more =>
      if isBoundaryChar c then
        match readBoundaryName flags (more.length + 1) [] (c :: more) with
        | (name, '\x7d' :: rest) =>
          match String.ofList name with
          | "start" => .ok (.wordStart ascii, rest)
          | "end" => .ok (.wordEnd ascii, rest)
          | "start-half" => .ok (.wordStartHalf ascii, rest)
          | "end-half" => .ok (.wordEndHalf ascii, rest)
          | _ => .error .boundaryUnknown
        | _ => .error .boundaryUnknown
      else .ok (.wordBoundary ascii, cs)
  | _ => .ok (.wordBoundary ascii, cs)

/-- Whether a backslash before the character makes it stand for itself. -/
def isEscapable (c : Char) : Bool :=
  isMeta c || (c.toNat < 0x80 && !c.isAlphanum && c != '<' && c != '>')

/-- Reads an escape sequence after its backslash. -/
def readEscape (flags : Flags) : Reader Escaped
  | [] => .error .escapeUnfinished
  | c :: rest =>
    if c.isDigit then .error .backreference
    else if isEscapable c then .ok (.char c, rest)
    else match c with
      | 'x' => (readCode flags 2 rest).map fun (c, rest) => (.char c, rest)
      | 'u' => (readCode flags 4 rest).map fun (c, rest) => (.char c, rest)
      | 'U' => (readCode flags 8 rest).map fun (c, rest) => (.char c, rest)
      | 'p' => (readProperty flags false rest).map fun (s, rest) => (.set s, rest)
      | 'P' => (readProperty flags true rest).map fun (s, rest) => (.set s, rest)
      | 'd' | 's' | 'w' | 'D' | 'S' | 'W' => (letterClass flags c).map fun s => (.set s, rest)
      | 'a' => .ok (.char '\x07', rest)
      | 'f' => .ok (.char '\x0c', rest)
      | 't' => .ok (.char '\t', rest)
      | 'n' => .ok (.char '\n', rest)
      | 'r' => .ok (.char '\r', rest)
      | 'v' => .ok (.char '\x0b', rest)
      | 'A' => .ok (.look .textStart, rest)
      | 'z' => .ok (.look .textEnd, rest)
      | 'b' => (readBoundary flags rest).map fun (l, rest) => (.look l, rest)
      | 'B' => .ok (.look (.notWordBoundary !flags.unicode), rest)
      | '<' => .ok (.look (.wordStart !flags.unicode), rest)
      | '>' => .ok (.look (.wordEnd !flags.unicode), rest)
      | _ => .error .escapeUnknown

end AccessDecision.Regex
