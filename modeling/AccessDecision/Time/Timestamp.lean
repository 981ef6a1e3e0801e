import AccessDecision.Text.Split
import AccessDecision.Time.Calendar

/-
  Timestamps

  A timestamp is a date and a time of day with the offset of its clock from
  universal time, written as `2024-01-12T06:59:00.5+08:00`. Two timestamps
  compare by the instants they denote. In a leap second the fraction runs on past
  one second.
-/

namespace AccessDecision.Time

/-- An instant: seconds since the start of 1970 in universal time, and the
nanoseconds since then, which in a leap second exceed a second. -/
structure Instant where
  seconds : Int
  nanos : Nat
deriving DecidableEq, Repr

/-- An instant as a clock at some offset, in seconds east, shows it. -/
structure Timestamp where
  instant : Instant
  offset : Int
deriving DecidableEq, Repr

namespace Instant

/-- Earlier. -/
instance : LT Instant :=
  ⟨fun a b => a.seconds < b.seconds ∨ a.seconds = b.seconds ∧ a.nanos < b.nanos⟩

instance (a b : Instant) : Decidable (a < b) :=
  inferInstanceAs (Decidable (a.seconds < b.seconds ∨ a.seconds = b.seconds ∧ a.nanos < b.nanos))

end Instant

/-- The nanoseconds in a second. -/
def nanosPerSecond : Nat := 1000000000

/-- The seconds in a day. -/
def secondsPerDay : Nat := 86400

/-- A number in so many decimal places. -/
def padded (places n : Nat) : List Char := (Nat.toDigits 10 n).leftpad places '0'

namespace Timestamp

/-- The nanoseconds of a fraction, of which digits past the ninth do not count. -/
def fractionNanos (digits : List Char) : Nat :=
  (Text.decimal? ((digits.take 9).rightpad 9 '0')).getD 0

/-- Reads a fraction of a second, if there is one. -/
def readFraction? (cs : List Char) : Option (Nat × List Char) :=
  match cs with
  | '.' :: rest =>
    match rest.takeWhile Char.isDigit with
    | [] => none
    | digits => some (fractionNanos digits, rest.dropWhile Char.isDigit)
  | _ => some (0, cs)

/-- The sign of an offset. -/
def sign? (c : Char) : Option Int :=
  if c = '+' then some 1 else if c = '-' ∨ c = '\u2212' then some (-1) else none

/-- Reads an offset, in seconds. -/
def offset? : List Char → Option Int
  | [c] => if c = 'Z' ∨ c = 'z' then some 0 else none
  | [s, h₁, h₂, ':', m₁, m₂] => do
    let sign ← sign? s
    let hours ← Text.decimal? [h₁, h₂]
    let minutes ← Text.decimal? [m₁, m₂]
    if hours ≤ 23 ∧ minutes ≤ 59 then some (sign * (hours * 3600 + minutes * 60 : Nat)) else none
  | _ => none

/-- The timestamp of a clock that shows the given date and time of day. The
second 60 is the second 59, with a fraction past one second. -/
def ofClock? (date : Date) (hour minute second nanos : Nat) (offset : Int) : Option Timestamp :=
  if date.isValid = true ∧ hour ≤ 23 ∧ minute ≤ 59 ∧ second ≤ 60 then
    let (second, nanos) := if second = 60 then (59, nanos + nanosPerSecond) else (second, nanos)
    let day : Int := (date.toDays : Int) - epochDays
    let shown : Int := day * secondsPerDay + (hour * 3600 + minute * 60 + second : Nat)
    some ⟨⟨shown - offset, nanos⟩, offset⟩
  else none

/-- The timestamp that a text is. -/
def ofText? (text : String) : Option Timestamp :=
  match text.toList with
  | y₁ :: y₂ :: y₃ :: y₄ :: '-' :: m₁ :: m₂ :: '-' :: d₁ :: d₂ :: sep ::
      h₁ :: h₂ :: ':' :: n₁ :: n₂ :: ':' :: s₁ :: s₂ :: rest => do
    let date : Date :=
      ⟨← Text.decimal? [y₁, y₂, y₃, y₄], ← Text.decimal? [m₁, m₂], ← Text.decimal? [d₁, d₂]⟩
    let hour ← Text.decimal? [h₁, h₂]
    let minute ← Text.decimal? [n₁, n₂]
    let second ← Text.decimal? [s₁, s₂]
    let (nanos, rest) ← readFraction? rest
    let offset ← offset? rest
    if sep = 'T' ∨ sep = 't' ∨ sep = ' ' then ofClock? date hour minute second nanos offset
    else none
  | _ => none

/-- An instant to the second in universal time, for the years from 0 on. -/
def utcText (seconds : Int) : String :=
  let total : Nat := (seconds + epochDays * secondsPerDay).toNat
  let date := Date.ofDays (total / secondsPerDay)
  let time := total % secondsPerDay
  String.ofList (padded 4 date.year ++ '-' :: padded 2 date.month ++ '-' :: padded 2 date.day ++
    'T' :: padded 2 (time / 3600) ++ ':' :: padded 2 (time / 60 % 60) ++ ':' ::
    padded 2 (time % 60) ++ ['Z'])

end Timestamp

end AccessDecision.Time
