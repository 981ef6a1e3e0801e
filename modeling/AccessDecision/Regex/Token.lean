import AccessDecision.Regex.Bracket
import AccessDecision.Unicode.LaterTable

/-
  The parts of an expression text

  One token is one item, one repetition sign or one sign of grouping. Items come
  resolved under the flags in force, so a token carries no flags but those that
  it sets.
-/

namespace AccessDecision.Regex

/-- A part of an expression text. -/
inductive Token where
  /-- A character, class, bracket or assertion, and how deeply it nests. -/
  | item (e : Expr) (depth : Nat)
  /-- Repeats the item before it. -/
  | times (min : Nat) (max : Option Nat)
  /-- Opens a group under the given flags; it captures what it matches, perhaps
  under a name, or it only groups. -/
  | open (captures : Bool) (name : Option (List Char)) (flags : Flags)
  /-- Changes the flags up to the end of the group around it. -/
  | setFlags (flags : Flags)
  | close
  | bar

/-- The set of one character under the flags in force. Without Unicode only ASCII
letters have another case. -/
def charSet (flags : Flags) (c : Char) : CharSet :=
  if flags.ignoreCase then
    if flags.unicode then .foldCase (.single c)
    else if c.isAlpha then .foldAscii (.single c) else .single c
  else .single c

/-- What a dot stands for: any character, or any that ends no line. -/
def dotSet (flags : Flags) : CharSet :=
  if flags.dotAll then .any
  else if flags.crlf then .compl (.union (.single '\n') (.single '\r'))
  else .compl (.single '\n')

/-- What a circumflex asserts. -/
def startLook (flags : Flags) : Look :=
  if flags.multiLine then (if flags.crlf then .lineStartCrlf else .lineStart) else .textStart

/-- What a dollar sign asserts. -/
def endLook (flags : Flags) : Look :=
  if flags.multiLine then (if flags.crlf then .lineEndCrlf else .lineEnd) else .textEnd

/-- Sets one flag by its letter. The letter `U` swaps which repetitions are
greedy, which no match depends on. -/
def setFlag? (value : Bool) (letter : Char) (flags : Flags) : Option Flags :=
  match letter with
  | 'i' => some { flags with ignoreCase := value }
  | 'm' => some { flags with multiLine := value }
  | 's' => some { flags with dotAll := value }
  | 'u' => some { flags with unicode := value }
  | 'R' => some { flags with crlf := value }
  | 'x' => some { flags with ignoreBlanks := value }
  | 'U' => some flags
  | _ => none

/-- Reads flag letters up to a colon or a closing parenthesis. No letter may come
twice, and at most one hyphen, with a letter after it, turns to those that are
switched off. -/
def readFlags (seen : List Char) (value : Bool) (dangling : Bool) (flags : Flags) :
    List Char → Except SyntaxError (Flags × List Char × List Char)
  | [] => .error .flagsUnfinished
  | c :: rest =>
    if c = ':' ∨ c = ')' then
      if dangling then .error .flagsUnfinished else .ok (flags, seen, c :: rest)
    else if c = '-' then
      if value then readFlags seen false true flags rest else .error .flagRepeated
    else
      match setFlag? value c flags with
      | none => .error .flagUnknown
      | some flags =>
        if seen.contains c then .error .flagRepeated
        else readFlags (c :: seen) value false flags rest

/-- Whether a character may stand in the name of a group, and at its start. -/
def isNameChar (first : Bool) (c : Char) : Bool :=
  c == '_' || Unicode.alphabetic.contains c || Unicode.inRanges c.toNat Unicode.laterAlphabetic ||
    (!first && (c == '.' || c == '[' || c == ']' ||
      (Unicode.CodeSet.ofCategories Unicode.Category.numbers).contains c ||
      Unicode.inRanges c.toNat Unicode.laterNumbers))

/-- Reads the name of a group up to its closing angle bracket. -/
def readName (cs : List Char) : Except SyntaxError (List Char × List Char) :=
  let name := cs.takeWhile (· != '>')
  match name, cs.dropWhile (· != '>') with
  | c :: more, '>' :: rest =>
    if isNameChar true c && more.all (isNameChar false) then .ok (name, rest)
    else .error .groupNameInvalid
  | _, _ => .error .groupNameInvalid

/-- Reads what follows an opening parenthesis. -/
def readOpening (flags : Flags) (cs : List Char) : Except SyntaxError (Token × List Char) :=
  match skipBlanks flags cs with
  | '?' :: '=' :: _ | '?' :: '!' :: _ | '?' :: '<' :: '=' :: _ | '?' :: '<' :: '!' :: _ =>
    .error .lookaround
  | '?' :: 'P' :: '<' :: rest | '?' :: '<' :: rest =>
    (readName rest).map fun (name, rest) => (.open true (some name) flags, rest)
  | '?' :: rest =>
    match readFlags [] true false flags rest with
    | .error e => .error e
    | .ok (flags', _, ':' :: rest) => .ok (.open false none flags', rest)
    | .ok (flags', seen, rest) =>
      if seen.isEmpty then .error .repetitionWithoutItem else .ok (.setFlags flags', rest.tail)
  | rest => .ok (.open true none flags, rest)

/-- Reads one token. Blanks before it are already skipped. -/
def readToken (flags : Flags) : Reader Token
  | [] => .error .groupUnclosed
  | '(' :: rest => readOpening flags rest
  | ')' :: rest => .ok (.close, rest)
  | '|' :: rest => .ok (.bar, rest)
  | '[' :: rest => do
    let (b, rest) ← readBracketStart flags rest
    let (item, rest) ← readBracket flags (rest.length + 1) b rest
    .ok (.item (.one item.set) item.depth, rest)
  | '?' :: rest => .ok (.times 0 (some 1), skipLazy rest)
  | '*' :: rest => .ok (.times 0 none, skipLazy rest)
  | '+' :: rest => .ok (.times 1 none, skipLazy rest)
  | '\x7b' :: rest =>
    (readCounts flags rest).map fun ((min, max), rest) => (.times min max, rest)
  | '.' :: rest =>
    if flags.unicode then .ok (.item (.one (dotSet flags)) 0, rest) else .error .notText
  | '^' :: rest => .ok (.item (.look (startLook flags)) 0, rest)
  | '$' :: rest => .ok (.item (.look (endLook flags)) 0, rest)
  | '\\' :: rest =>
    (readEscape flags rest).map fun
      | (.char c, rest) => (.item (.one (charSet flags c)) 0, rest)
      | (.set s, rest) => (.item (.one s) 0, rest)
      | (.look l, rest) => (.item (.look l) 0, rest)
  | c :: rest => .ok (.item (.one (charSet flags c)) 0, rest)

end AccessDecision.Regex
