import AccessDecision.Json.Fault
import AccessDecision.Json.Number

/-
  The small parts of JSON text: literals, strings and numbers

  A reader takes the characters still to come and gives back what it read and
  the rest. Readers of strings and numbers start behind the first character, by
  which the value was recognised.
-/

namespace AccessDecision.Json

/-- A reader of JSON text. -/
abbrev Reader (α : Type) := List Char → Except Fault (α × List Char)

/-- White space between tokens. -/
def isSpace (c : Char) : Bool := c == ' ' || c == '\n' || c == '\t' || c == '\r'

/-- Drops white space. -/
def skipSpace (cs : List Char) : List Char := cs.dropWhile isSpace

/-- Reads the rest of a literal. -/
def readLiteral : (literal : List Char) → Reader Unit
  | [], cs => .ok ((), cs)
  | _ :: _, [] => .error (.ended .value)
  | l :: ls, c :: cs => if c = l then readLiteral ls cs else .error .expectedLiteral

/-! ## Strings -/

/-- The value of a hexadecimal digit. -/
def hexDigit? (c : Char) : Option Nat :=
  if '0' ≤ c ∧ c ≤ '9' then some (c.toNat - '0'.toNat)
  else if 'a' ≤ c ∧ c ≤ 'f' then some (c.toNat - 'a'.toNat + 10)
  else if 'A' ≤ c ∧ c ≤ 'F' then some (c.toNat - 'A'.toNat + 10)
  else none

/-- The number of bytes that some characters are encoded with. -/
def byteCount (cs : List Char) : Nat := cs.foldl (fun n c => n + c.utf8Size) 0

/-- Reads four hexadecimal digits. The text ends too early if fewer than four
bytes are left. -/
def readHex4 : Reader Nat
  | a :: b :: c :: d :: rest =>
    match hexDigit? a, hexDigit? b, hexDigit? c, hexDigit? d with
    | some a, some b, some c, some d => .ok (((a * 16 + b) * 16 + c) * 16 + d, rest)
    | _, _, _, _ => .error .invalidEscape
  | cs => if byteCount cs < 4 then .error (.ended .string) else .error .invalidEscape

/-- The character of a code point that is no surrogate. -/
def charOf (n : Nat) : Char := Char.ofNat n

/-- Reads the escape that has to follow a leading surrogate. -/
def readTrailing (lead : Nat) : Reader Char
  | '\\' :: 'u' :: rest => do
    let (n, rest) ← readHex4 rest
    if 0xDC00 ≤ n ∧ n ≤ 0xDFFF then
      .ok (charOf ((lead - 0xD800) * 0x400 + (n - 0xDC00) + 0x10000), rest)
    else .error .loneSurrogate
  | [] | ['\\'] => .error (.ended .string)
  | _ => .error .unpairedSurrogate

/-- Reads a code point escape after its letter. Surrogates have to come in
pairs. -/
def readUnicode (cs : List Char) : Except Fault (Char × List Char) := do
  let (n, rest) ← readHex4 cs
  if 0xDC00 ≤ n ∧ n ≤ 0xDFFF then .error .loneSurrogate
  else if 0xD800 ≤ n ∧ n ≤ 0xDBFF then readTrailing n rest
  else .ok (charOf n, rest)

/-- The character of a short escape. -/
def shortEscape? : Char → Option Char
  | '"' => some '"'
  | '\\' => some '\\'
  | '/' => some '/'
  | 'b' => some '\x08'
  | 'f' => some '\x0c'
  | 'n' => some '\n'
  | 'r' => some '\r'
  | 't' => some '\t'
  | _ => none

/-- Reads one character of a string, or the quote that closes it. -/
def readChar : Reader (Option Char)
  | [] => .error (.ended .string)
  | '"' :: rest => .ok (none, rest)
  | ['\\'] => .error (.ended .string)
  | '\\' :: 'u' :: rest => do
    let (c, rest) ← readUnicode rest
    .ok (some c, rest)
  | '\\' :: c :: rest =>
    match shortEscape? c with
    | some c => .ok (some c, rest)
    | none => .error .invalidEscape
  | c :: rest => if c.toNat < 0x20 then .error .controlCharacter else .ok (some c, rest)

/-- Reads the characters of a string after those read so far, latest first. -/
def readChars : (fuel : Nat) → (read : List Char) → Reader (List Char)
  | 0, _, _ => .error (.ended .string)
  | fuel + 1, read, cs =>
    match readChar cs with
    | .error e => .error e
    | .ok (none, rest) => .ok (read.reverse, rest)
    | .ok (some c, rest) => readChars fuel (c :: read) rest

/-- Reads a string behind its opening quote. -/
def readString (cs : List Char) : Except Fault (String × List Char) := do
  let (chars, rest) ← readChars (cs.length + 1) [] cs
  .ok (String.ofList chars, rest)

/-! ## Numbers -/

/-- The value of a decimal digit. -/
def digitValue (c : Char) : Nat := c.toNat - '0'.toNat

/-- Adds digits to a significand as long as it fits 64 bits without sign. The
count says how many were added. -/
def addDigits (significand count : Nat) : List Char → Nat × Nat × List Char
  | [] => (significand, count, [])
  | c :: rest =>
    if c.isDigit && significand * 10 + digitValue c ≤ Number.maxUnsigned then
      addDigits (significand * 10 + digitValue c) (count + 1) rest
    else (significand, count, c :: rest)

/-- The double of a significand and a power of ten. -/
def toDouble (negative : Bool) (significand : Nat) (exponent : Int) : Except Fault Number :=
  match Decimal.Binary64.ofDecimal significand exponent with
  | some size => .ok (.double negative size)
  | none => .error .numberOutOfRange

/-- The greatest exponent that is counted exactly. -/
def maxExponent : Nat := 2 ^ 31 - 1

/-- Reads the digits of an exponent. One that is too great makes the value zero
or puts it out of range, and its other digits do not count; the result is absent
for zero. -/
def readExponentDigits (zero up : Bool) (value : Nat) : List Char →
    Except Fault (Option Nat × List Char)
  | [] => .ok (some value, [])
  | c :: rest =>
    if c.isDigit then
      if value * 10 + digitValue c ≤ maxExponent then
        readExponentDigits zero up (value * 10 + digitValue c) rest
      else if !zero && up then .error .numberOutOfRange
      else .ok (none, rest.dropWhile Char.isDigit)
    else .ok (some value, c :: rest)

/-- Reads an exponent behind its letter. -/
def readExponent (negative : Bool) (significand : Nat) (start : Int) (cs : List Char) :
    Except Fault (Number × List Char) := do
  let (up, cs) := match cs with
    | '+' :: rest => (true, rest)
    | '-' :: rest => (false, rest)
    | _ => (true, cs)
  match cs with
  | [] => .error (.ended .value)
  | c :: _ =>
    if c.isDigit then
      let (value, rest) ← readExponentDigits (significand == 0) up 0 cs
      match value with
      | none => .ok (.double negative Decimal.Binary64.zero, rest)
      | some v =>
        let x ← toDouble negative significand (if up then start + v else start - v)
        .ok (x, rest)
    else .error .invalidNumber

/-- Reads the exponent if there is one, and makes a double of the parts. -/
def readScale (negative : Bool) (significand : Nat) (exponent : Int) (cs : List Char) :
    Except Fault (Number × List Char) :=
  match cs with
  | 'e' :: rest | 'E' :: rest => readExponent negative significand exponent rest
  | _ => do .ok (← toDouble negative significand exponent, cs)

/-- Reads a fraction behind its point. Digits that the significand cannot hold
are dropped. -/
def readFraction (negative : Bool) (significand : Nat) (exponent : Int) (cs : List Char) :
    Except Fault (Number × List Char) :=
  match addDigits significand 0 cs with
  | (significand', count, c :: rest) =>
    if c.isDigit then
      readScale negative significand' (exponent - count) (rest.dropWhile Char.isDigit)
    else if count = 0 then .error .invalidNumber
    else readScale negative significand' (exponent - count) (c :: rest)
  | (significand', count, []) =>
    if count = 0 then .error (.ended .value)
    else readScale negative significand' (exponent - count) []

/-- An integer, or a double if it does not fit. Minus zero is a double. -/
def wholeNumber (negative : Bool) (significand : Nat) : Except Fault Number :=
  if negative then
    if significand = 0 ∨ Number.maxSigned + 1 < significand then toDouble true significand 0
    else .ok (.integer (-(significand : Int)))
  else .ok (.integer significand)

/-- Reads what may follow the digits before the point. -/
def readAfterDigits (negative : Bool) (significand : Nat) (cs : List Char) :
    Except Fault (Number × List Char) :=
  match cs with
  | '.' :: rest => readFraction negative significand 0 rest
  | 'e' :: rest | 'E' :: rest => readExponent negative significand 0 rest
  | _ => do .ok (← wholeNumber negative significand, cs)

/-- Reads a number behind its sign. -/
def readNumber (negative : Bool) (cs : List Char) : Except Fault (Number × List Char) :=
  match cs with
  | [] => .error (.ended .value)
  | '0' :: rest =>
    if rest.head?.any Char.isDigit then .error .invalidNumber
    else readAfterDigits negative 0 rest
  | c :: _ =>
    if c.isDigit then
      match addDigits 0 0 cs with
      | (significand, _, rest) =>
        if rest.head?.any Char.isDigit then
          -- The digits from here on only scale the significand.
          let exponent : Int := (rest.takeWhile Char.isDigit).length
          match rest.dropWhile Char.isDigit with
          | '.' :: rest => readFraction negative significand exponent rest
          | rest => readScale negative significand exponent rest
        else readAfterDigits negative significand rest
    else .error .invalidNumber

end AccessDecision.Json
