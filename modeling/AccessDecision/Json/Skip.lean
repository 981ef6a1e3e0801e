import AccessDecision.Json.Scan

/-
  Skipping values

  A value that nobody asked for is checked, but not built, and it may nest as
  deeply as it likes: the open lists and objects are kept on a stack. Surrogates
  need not come in pairs here and numbers may have any size.
-/

namespace AccessDecision.Json

/-- Skips a string behind its opening quote. -/
def skipString : (fuel : Nat) → List Char → Except Fault (List Char)
  | 0, _ | _ + 1, [] => .error (.ended .string)
  | fuel + 1, c :: rest =>
    if c = '"' then .ok rest
    else if c = '\\' then
      match rest with
      | [] => .error (.ended .string)
      | 'u' :: rest => do
        let (_, rest) ← readHex4 rest
        skipString fuel rest
      | c :: rest => if (shortEscape? c).isSome then skipString fuel rest else .error .invalidEscape
    else if c.toNat < 0x20 then .error .controlCharacter
    else skipString fuel rest

/-- Skips an exponent behind its letter. -/
def skipExponent (cs : List Char) : Except Fault (List Char) :=
  let cs := match cs with
    | '+' :: rest | '-' :: rest => rest
    | _ => cs
  if cs.head?.any Char.isDigit then .ok (cs.dropWhile Char.isDigit) else .error .invalidNumber

/-- Skips an exponent if there is one. -/
def skipScale (cs : List Char) : Except Fault (List Char) :=
  match cs with
  | 'e' :: rest | 'E' :: rest => skipExponent rest
  | _ => .ok cs

/-- Skips a number behind its sign. -/
def skipNumber (cs : List Char) : Except Fault (List Char) :=
  let afterDigits : List Char → Except Fault (List Char)
    | '.' :: rest =>
      if rest.head?.any Char.isDigit then skipScale (rest.dropWhile Char.isDigit)
      else .error .invalidNumber
    | rest => skipScale rest
  match cs with
  | '0' :: rest => if rest.head?.any Char.isDigit then .error .invalidNumber else afterDigits rest
  | c :: _ => if c.isDigit then afterDigits (cs.dropWhile Char.isDigit) else .error .invalidNumber
  | [] => .error .invalidNumber

/-- A list or object that is open. -/
inductive Enclosing where
  | list | object
deriving DecidableEq, Repr

namespace Enclosing

/-- The fault of a text that ends inside. -/
def endedInside : Enclosing → Fault
  | list => .ended .list
  | object => .ended .object

/-- The fault of two members without a comma between them. -/
def missingSeparator : Enclosing → Fault
  | list => .expectedListSeparator
  | object => .expectedObjectSeparator

end Enclosing

/-- What is to be skipped next. -/
inductive SkipState where
  /-- A value. -/
  | value
  /-- The end of the innermost enclosing value, or its next member; `first` says
  that there was none yet. -/
  | next (first : Bool)

/-- Skips a key and the colon behind it. -/
def skipKey (cs : List Char) : Except Fault (List Char) :=
  match skipSpace cs with
  | [] => .error (.ended .object)
  | '"' :: rest => do
    match skipSpace (← skipString (rest.length + 1) rest) with
    | [] => .error (.ended .object)
    | ':' :: rest => .ok rest
    | _ => .error .expectedColon
  | _ => .error .keyNotString

/-- Skips to the end of the outermost value. The fuel counts steps, of which each
takes at least one character or starts a member. -/
def skipSteps : (fuel : Nat) → SkipState → List Enclosing → List Char → Except Fault (List Char)
  | 0, _, _, _ => .error .nestingTooDeep
  | fuel + 1, .value, stack, cs =>
    match skipSpace cs with
    | [] => .error (.ended .value)
    | '[' :: rest => skipSteps fuel (.next true) (.list :: stack) rest
    | '\x7b' :: rest => skipSteps fuel (.next true) (.object :: stack) rest
    | c :: rest => do skipSteps fuel (.next false) stack (← scalar c rest)
  | _ + 1, .next _, [], cs => .ok cs
  | fuel + 1, .next first, e :: stack, cs =>
    match skipSpace cs, e with
    | [], e => .error e.endedInside
    | ']' :: rest, .list | '\x7d' :: rest, .object => skipSteps fuel (.next false) stack rest
    | c :: rest, e =>
      if first then member fuel e stack (c :: rest)
      else if c = ',' then member fuel e stack rest
      else .error e.missingSeparator
where
  /-- Skips a scalar, given its first character. -/
  scalar (c : Char) (rest : List Char) : Except Fault (List Char) :=
    match c with
    | 'n' => (readLiteral ['u', 'l', 'l'] rest).map (·.2)
    | 't' => (readLiteral ['r', 'u', 'e'] rest).map (·.2)
    | 'f' => (readLiteral ['a', 'l', 's', 'e'] rest).map (·.2)
    | '"' => skipString (rest.length + 1) rest
    | '-' => skipNumber rest
    | c => if c.isDigit then skipNumber (c :: rest) else .error .expectedValue
  /-- Skips the start of a member up to its value. -/
  member (fuel : Nat) (e : Enclosing) (stack : List Enclosing) (cs : List Char) :
      Except Fault (List Char) := do
    let cs ← if e = .object then skipKey cs else .ok cs
    skipSteps fuel .value (e :: stack) cs

/-- Skips a value. -/
def skipValue (cs : List Char) : Except Fault (List Char) :=
  skipSteps (2 * cs.length + 2) .value [] cs

end AccessDecision.Json
