/-
  The Gregorian calendar

  Dates are counted in days from the first of January of the year zero, with the
  Gregorian rule for leap years running back to then.
-/

namespace AccessDecision.Time

/-- A date in the years from 0 to 9999 or later. -/
structure Date where
  year : Nat
  month : Nat
  day : Nat
deriving DecidableEq, Repr

/-- Whether a year has a day more. -/
def isLeapYear (y : Nat) : Bool := y % 4 == 0 && (y % 100 != 0 || y % 400 == 0)

/-- The lengths of the months of a year. -/
def monthLengths (y : Nat) : List Nat :=
  [31, if isLeapYear y then 29 else 28, 31, 30, 31, 30, 31, 31, 30, 31, 30, 31]

/-- The days from the start of the year zero to the start of a year. -/
def daysBeforeYear (y : Nat) : Nat :=
  365 * y + (y + 3) / 4 + (y + 399) / 400 - (y + 99) / 100

namespace Date

/-- Whether the month and the day exist. -/
def isValid (d : Date) : Bool :=
  match d.month with
  | 0 => false
  | m + 1 => (monthLengths d.year)[m]?.any fun length => 1 ≤ d.day && d.day ≤ length

/-- The days since the start of the year zero. -/
def toDays (d : Date) : Nat :=
  daysBeforeYear d.year + ((monthLengths d.year).take (d.month - 1)).foldl (· + ·) 0 + (d.day - 1)

/-- The year in which a day lies. The average length of a year leads to it or to
a neighbour. -/
def yearOf (n : Nat) : Nat :=
  let y := n * 400 / 146097
  if daysBeforeYear (y + 1) ≤ n then y + 1 else if n < daysBeforeYear y then y - 1 else y

/-- The month and day that lie `n` days after the start of the first of some
months. -/
def inMonths : (month : Nat) → (lengths : List Nat) → (n : Nat) → Nat × Nat
  | month, [], n => (month, n + 1)
  | month, length :: rest, n =>
    if n < length then (month, n + 1) else inMonths (month + 1) rest (n - length)

/-- The date that lies so many days after the start of the year zero. -/
def ofDays (n : Nat) : Date :=
  let y := yearOf n
  let (month, day) := inMonths 1 (monthLengths y) (n - daysBeforeYear y)
  ⟨y, month, day⟩

end Date

/-- The days from the start of the year zero to the start of 1970. -/
def epochDays : Nat := 719528

end AccessDecision.Time
