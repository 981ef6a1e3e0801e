import AccessDecision.Decimal.Binary64
import AccessDecision.Time.Calendar
import AccessDecision.Text.Split
import AccessDecision.Toml.Document

/-
  TOML scalars without quotes

  Booleans, numbers, dates and times are recognised as whole words: a word either
  is one of them or is nothing.
-/

namespace AccessDecision.Toml

/-- The value of a digit in a base of at most sixteen. -/
def digit? (base : Nat) (c : Char) : Option Nat :=
  let v := if '0' ≤ c ∧ c ≤ '9' then c.toNat - '0'.toNat
    else if 'a' ≤ c ∧ c ≤ 'f' then c.toNat - 'a'.toNat + 10
    else if 'A' ≤ c ∧ c ≤ 'F' then c.toNat - 'A'.toNat + 10
    else base
  if v < base then some v else none

/-- The digits of a number, which single underscores may part. -/
def digits? (base : Nat) : List Char → Option (List Nat)
  | [] => none
  | [c] => (digit? base c).map fun d => [d]
  | c :: '_' :: rest => do pure ((← digit? base c) :: (← digits? base rest))
  | c :: rest => do pure ((← digit? base c) :: (← digits? base rest))

/-- The value of digits to a base. -/
def valueOf (base : Nat) (digits : List Nat) : Nat := digits.foldl (fun n d => n * base + d) 0

/-- The greatest integer. -/
def maxInteger : Nat := 2 ^ 63 - 1

/-- The sign at the front of a word, and the rest. -/
def cutSign : List Char → Bool × List Char
  | '-' :: rest => (true, rest)
  | '+' :: rest => (false, rest)
  | cs => (false, cs)

/-- Decimal digits without a zero in front of others. -/
def plainDigits? (cs : List Char) : Option (List Nat) :=
  match digits? 10 cs with
  | some (0 :: _ :: _) => none
  | ds => ds

/-- The integer that a word is: decimal, or without a sign hexadecimal, octal or
binary. -/
def integer? (word : List Char) : Option Int :=
  match word with
  | '0' :: 'x' :: rest => unsigned 16 rest
  | '0' :: 'o' :: rest => unsigned 8 rest
  | '0' :: 'b' :: rest => unsigned 2 rest
  | _ => do
    let (negative, rest) := cutSign word
    let n := valueOf 10 (← plainDigits? rest)
    if negative then (if n ≤ maxInteger + 1 then some (-n) else none)
    else if n ≤ maxInteger then some n else none
where
  unsigned (base : Nat) (cs : List Char) : Option Int := do
    let n := valueOf base (← digits? base cs)
    if n ≤ maxInteger then some n else none

/-- Whether `m * 10 ^ e` rounds to a finite double. -/
def isFinite (m : Nat) (e : Int) : Bool :=
  if m = 0 then true
  else
    let power := ((Nat.toDigits 10 m).length : Int) + e
    if 310 < power then false
    else if power < 0 then true
    else match e with
      | .ofNat n => (Decimal.Binary64.ofRatio (m * 10 ^ n) 1).isSome
      | .negSucc n => (Decimal.Binary64.ofRatio m (10 ^ (n + 1))).isSome

/-- The value of an exponent. -/
def exponent? (cs : List Char) : Option Int := do
  let (negative, rest) := cutSign cs
  let n : Int := valueOf 10 (← digits? 10 rest)
  pure (if negative then -n else n)

/-- Whether a word is a floating point number: infinity, no number at all, or
digits with a fraction or an exponent. A positive one has to be finite. -/
def isFloat (word : List Char) : Bool :=
  let (negative, rest) := cutSign word
  if rest = ['i', 'n', 'f'] ∨ rest = ['n', 'a', 'n'] then true
  else
    let mantissa := rest.takeWhile fun c => c != 'e' && c != 'E'
    let whole := mantissa.takeWhile (· != '.')
    let parts : Option (List Nat × List Nat × Int) := do
      let w ← plainDigits? whole
      let f ← match mantissa.dropWhile (· != '.') with
        | [] => some []
        | _ :: fraction => digits? 10 fraction
      let e ← match rest.dropWhile fun c => c != 'e' && c != 'E' with
        | [] => if f.isEmpty then none else some 0
        | _ :: exponent => exponent? exponent
      pure (w, f, e)
    match parts with
    | none => false
    | some (w, f, e) => negative || isFinite (valueOf 10 (w ++ f)) (e - f.length)

/-- Whether a word is a date. -/
def isDate : List Char → Bool
  | [y₁, y₂, y₃, y₄, '-', m₁, m₂, '-', d₁, d₂] =>
    match Text.decimal? [y₁, y₂, y₃, y₄], Text.decimal? [m₁, m₂], Text.decimal? [d₁, d₂] with
    | some y, some m, some d => Time.Date.isValid ⟨y, m, d⟩
    | _, _, _ => false
  | _ => false

/-- Whether two digits are a number up to a bound. -/
def isUpTo (bound : Nat) (c₁ c₂ : Char) : Bool := (Text.decimal? [c₁, c₂]).any (· ≤ bound)

/-- What follows a time of day at the front of a word, if there is one. -/
def afterTime? : List Char → Option (List Char)
  | h₁ :: h₂ :: ':' :: m₁ :: m₂ :: ':' :: s₁ :: s₂ :: rest =>
    if isUpTo 23 h₁ h₂ && isUpTo 59 m₁ m₂ && isUpTo 60 s₁ s₂ then
      match rest with
      | '.' :: c :: rest => if c.isDigit then some (rest.dropWhile Char.isDigit) else none
      | rest => some rest
    else none
  | _ => none

/-- Whether a word is the offset of a clock. -/
def isOffset : List Char → Bool
  | [c] => c == 'Z' || c == 'z'
  | [sign, h₁, h₂, ':', m₁, m₂] =>
    (sign == '+' || sign == '-') && isUpTo 23 h₁ h₂ && isUpTo 59 m₁ m₂
  | _ => false

/-- Whether a word is a time of day, and if `offsetAllowed` perhaps an offset
behind it. -/
def isTime (offsetAllowed : Bool) (word : List Char) : Bool :=
  match afterTime? word with
  | some [] => true
  | some rest => offsetAllowed && isOffset rest
  | none => false

/-- Whether a word is a date, a time, or both with a letter or a blank between
them. -/
def isDateTime (word : List Char) : Bool :=
  isTime false word || isDate word ||
    (isDate (word.take 10) &&
      match word.drop 10 with
      | c :: time => (c == 'T' || c == 't' || c == ' ') && isTime true time
      | [] => false)

/-- The value that a word is. -/
def scalar? (word : List Char) : Option Value :=
  match integer? word with
  | some n => some (.integer n)
  | none =>
    if word = ['t', 'r', 'u', 'e'] ∨ word = ['f', 'a', 'l', 's', 'e'] ∨ isFloat word = true ∨
        isDateTime word = true then some .other
    else none

/-- Whether a character may belong to a word. -/
def isWordChar (c : Char) : Bool :=
  c.isAlphanum || c == '+' || c == '-' || c == '.' || c == '_' || c == ':'

/-- Reads a scalar. A date may be parted from its time by a single blank. -/
def readScalar (cs : List Char) : Option (Value × List Char) :=
  let word := cs.takeWhile isWordChar
  let rest := cs.dropWhile isWordChar
  let joined := match rest with
    | ' ' :: more =>
      let next := more.takeWhile isWordChar
      if isDate word && isTime true next then some (more.dropWhile isWordChar) else none
    | _ => none
  match joined with
  | some rest => some (.other, rest)
  | none => (scalar? word).map fun v => (v, rest)

end AccessDecision.Toml
