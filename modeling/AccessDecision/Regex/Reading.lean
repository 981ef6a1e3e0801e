import AccessDecision.Power
import AccessDecision.Unicode.PropertyTable

/-
  Reading expression text: faults, flags and the small parts

  A reader takes the characters still to come and gives back what it read and
  the rest. While blanks are ignored (flag `x`), white space and comments may
  stand between the parts, and each reader says where.
-/

namespace AccessDecision.Regex

/-- What is wrong with the text of an expression. -/
inductive SyntaxError where
  | groupUnclosed
  | groupUnopened
  | groupNameInvalid
  | groupNameRepeated
  | lookaround
  | classUnclosed
  | classRangeInvalid
  | classItemInvalid
  | escapeUnfinished
  | escapeUnknown
  | backreference
  | codePointInvalid
  | propertyUnknown
  | boundaryUnknown
  | repetitionWithoutItem
  | repetitionInvalid
  | flagUnknown
  | flagRepeated
  | flagsUnfinished
  | nestingTooDeep
  /-- The set holds bytes that are no characters, or needs Unicode while Unicode
  is switched off. -/
  | notText
deriving DecidableEq, Repr

/-- A reader of expression text. -/
abbrev Reader (α : Type) := List Char → Except SyntaxError (α × List Char)

/-- The flags in force. -/
structure Flags where
  ignoreCase : Bool := false
  multiLine : Bool := false
  dotAll : Bool := false
  unicode : Bool := true
  crlf : Bool := false
  ignoreBlanks : Bool := false
deriving DecidableEq, Repr

/-- White space. -/
def isBlank (c : Char) : Bool := Unicode.whiteSpace.contains c

/-- Drops white space and comments; `inComment` says whether a comment is open,
which runs to the end of its line. -/
def dropBlanks (inComment : Bool) : List Char → List Char
  | [] => []
  | c :: rest =>
    if inComment then dropBlanks (c != '\n') rest
    else if isBlank c then dropBlanks false rest
    else if c = '#' then dropBlanks true rest
    else c :: rest

/-- Drops white space and comments if blanks are ignored. -/
def skipBlanks (flags : Flags) (cs : List Char) : List Char :=
  if flags.ignoreBlanks then dropBlanks false cs else cs

/-- The next character that counts, looking past blanks if they are ignored. A
comment sign hides no more than itself here. -/
def peekPastBlanks (flags : Flags) (cs : List Char) : Option Char :=
  if flags.ignoreBlanks then
    match cs.dropWhile isBlank with
    | '#' :: rest => (rest.dropWhile isBlank).head?
    | rest => rest.head?
  else cs.head?

/-- The value of a hexadecimal digit. -/
def hexValue? (c : Char) : Option Nat :=
  if '0' ≤ c ∧ c ≤ '9' then some (c.toNat - '0'.toNat)
  else if 'a' ≤ c ∧ c ≤ 'f' then some (c.toNat - 'a'.toNat + 10)
  else if 'A' ≤ c ∧ c ≤ 'F' then some (c.toNat - 'A'.toNat + 10)
  else none

/-- The character of a code point. -/
def charOfCode (n : Nat) : Except SyntaxError Char :=
  if h : n.isValidChar then .ok (Char.ofNatAux n h) else .error .codePointInvalid

/-- Reads exactly `digits` hexadecimal digits after the value so far. -/
def readHexDigits (flags : Flags) : (digits : Nat) → (value : Nat) → Reader Nat
  | 0, value, cs => .ok (value, cs)
  | _ + 1, _, [] => .error .escapeUnfinished
  | n + 1, value, c :: rest =>
    match hexValue? c with
    | none => .error .codePointInvalid
    | some d => readHexDigits flags n (value * 16 + d) (skipBlanks flags rest)

/-- Reads hexadecimal digits up to a closing brace. Blanks may stand between
them, so the rest is cut before each one and `fuel` counts the characters. -/
def readHexBraced (flags : Flags) : (fuel : Nat) → (value : Option Nat) → Reader Nat
  | 0, _, _ => .error .escapeUnfinished
  | fuel + 1, value, cs =>
    match cs, value with
    | [], _ => .error .escapeUnfinished
    | '\x7d' :: rest, some v => .ok (v, skipBlanks flags rest)
    | '\x7d' :: _, none => .error .codePointInvalid
    | c :: rest, _ =>
      match hexValue? c with
      | none => .error .codePointInvalid
      | some d => readHexBraced flags fuel (some (value.getD 0 * 16 + d)) (skipBlanks flags rest)

/-- Reads the characters up to a closing brace, without the blanks that are
ignored. -/
def readBraced (flags : Flags) : (fuel : Nat) → (read : List Char) → Reader (List Char)
  | 0, _, _ => .error .escapeUnfinished
  | _ + 1, _, [] => .error .escapeUnfinished
  | fuel + 1, read, c :: rest =>
    if c = '\x7d' then .ok (read.reverse, rest)
    else readBraced flags fuel (c :: read) (skipBlanks flags rest)

/-- Reads decimal digits, with the blanks that may stand between them. -/
def readDigits (flags : Flags) : (fuel : Nat) → (value : Option Nat) → List Char →
    Option Nat × List Char
  | 0, value, cs => (value, cs)
  | _ + 1, value, [] => (value, [])
  | fuel + 1, value, c :: rest =>
    if '0' ≤ c ∧ c ≤ '9' then
      readDigits flags fuel (some (value.getD 0 * 10 + (c.toNat - '0'.toNat)))
        (skipBlanks flags rest)
    else (value, c :: rest)

/-- The greatest count of a repetition. -/
def maxCount : Nat := 2 ^ 32 - 1

/-- Drops white space, and after the first one also what `skipBlanks` drops. -/
def dropSpace (flags : Flags) : (fuel : Nat) → List Char → List Char
  | 0, cs => cs
  | _ + 1, [] => []
  | fuel + 1, c :: rest =>
    if isBlank c then dropSpace flags fuel (skipBlanks flags rest) else c :: rest

/-- Reads a count, which white space may surround; absent if there is no
digit. -/
def readCount (flags : Flags) (cs : List Char) : Except SyntaxError (Option Nat × List Char) :=
  let cs := cs.dropWhile isBlank
  let (value, rest) := readDigits flags cs.length none cs
  if value.getD 0 ≤ maxCount then .ok (value, dropSpace flags rest.length rest)
  else .error .repetitionInvalid

/-- Skips a mark that makes a repetition lazy. -/
def skipLazy : List Char → List Char
  | '?' :: rest => rest
  | cs => cs

/-- Reads the counts of a repetition after its opening brace. -/
def readCounts (flags : Flags) (cs : List Char) :
    Except SyntaxError ((Nat × Option Nat) × List Char) := do
  let (least, rest) ← readCount flags (skipBlanks flags cs)
  let least ← least.elim (.error .repetitionInvalid) .ok
  let (most, rest) ←
    match rest with
    | ',' :: rest =>
      match skipBlanks flags rest with
      | '\x7d' :: rest => .ok (none, '\x7d' :: rest)
      | rest =>
        match readCount flags rest with
        | .ok (some most, rest) => .ok (some most, rest)
        | .ok (none, _) => .error .repetitionInvalid
        | .error e => .error e
    | rest => .ok (some least, rest)
  match rest with
  | '\x7d' :: rest =>
    if most.all (least ≤ ·) then .ok ((least, most), skipLazy (skipBlanks flags rest))
    else .error .repetitionInvalid
  | _ => .error .repetitionInvalid

end AccessDecision.Regex
