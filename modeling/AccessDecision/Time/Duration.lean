import AccessDecision.Power

/-
  Durations

  A duration is a whole number of nanoseconds. It is written in the largest unit
  of which it holds at least one, with the exact fraction behind a point. A machine
  keeps it as seconds and the nanoseconds past them (`Parts`), and computes with
  both in words that may overflow.
-/

namespace AccessDecision.Time

/-- A span of time. -/
structure Duration where
  nanos : Nat
deriving DecidableEq, Repr

namespace Duration

/-- Shorter or equal. -/
instance : LE Duration := ⟨fun a b => a.nanos ≤ b.nanos⟩

instance (a b : Duration) : Decidable (a ≤ b) :=
  inferInstanceAs (Decidable (a.nanos ≤ b.nanos))

/-- No time at all. -/
def zero : Duration := ⟨0⟩

/-- The nanoseconds in a millisecond. -/
def nanosPerMilli : Nat := 1000000

/-- So many milliseconds. -/
def ofMillis (ms : Nat) : Duration := ⟨ms * nanosPerMilli⟩

/-- The least whole number of milliseconds that is not shorter. -/
def ceilMillis (d : Duration) : Nat := (d.nanos + (nanosPerMilli - 1)) / nanosPerMilli

/-! ## In machine words -/

/-- A number as a word of so many bits has it; absent if it overflows. -/
def word? (bits n : Nat) : Option Nat := if n < 2 ^ bits then some n else none

/-- A duration as a machine keeps it: seconds in 64 bits, and the nanoseconds past
them. -/
structure Parts where
  seconds : Nat
  nanos : Nat
  seconds_lt : seconds < 2 ^ 64
  nanos_lt : nanos < 10 ^ 9

namespace Parts

/-- The duration that is kept. -/
def duration (p : Parts) : Duration := ⟨p.seconds * 10 ^ 9 + p.nanos⟩

/-- The rounded milliseconds in words of 128 bits. -/
def ceilMillis? (p : Parts) : Option Nat := do
  let scaled ← word? 128 (p.seconds * 10 ^ 9)
  let total ← word? 128 (scaled + p.nanos)
  let whole := total / nanosPerMilli
  if total % nanosPerMilli = 0 then pure whole else word? 128 (whole + 1)

/-- Milliseconds as a word of 64 bits has them, or the greatest ones that it has. -/
def narrow (ms : Nat) : Nat := (word? 64 ms).getD (2 ^ 64 - 1)

/-- The seconds in a number of milliseconds and the nanoseconds past them, in words of 64
and of 32 bits. -/
def split? (ms : Nat) : Option (Nat × Nat) := do
  let seconds ← word? 64 (ms / 1000)
  let nanos ← word? 32 (ms % 1000 * nanosPerMilli)
  pure (seconds, nanos)

end Parts

/-! ## The written form -/

/-- The digits of `n` in exactly `width` places, without the zeros at the end. -/
def fractionDigits : (width : Nat) → (n : Nat) → List Char
  | 0, _ => []
  | width + 1, n =>
    if n = 0 then []
    else (n / 10 ^ width).digitChar :: fractionDigits width (n % 10 ^ width)

/-- A number of units of `10 ^ places` nanoseconds. -/
def inUnit (places : Nat) (unit : String) (nanos : Nat) : String :=
  let whole := toString (nanos / 10 ^ places)
  match fractionDigits places (nanos % 10 ^ places) with
  | [] => whole ++ unit
  | digits => whole ++ "." ++ String.ofList digits ++ unit

/-- The written form. -/
def render (d : Duration) : String :=
  if 10 ^ 9 ≤ d.nanos then inUnit 9 "s" d.nanos
  else if 10 ^ 6 ≤ d.nanos then inUnit 6 "ms" d.nanos
  else if 10 ^ 3 ≤ d.nanos then inUnit 3 "µs" d.nanos
  else inUnit 0 "ns" d.nanos

end Duration

end AccessDecision.Time
