import AccessDecision.Decimal.Binary64

/-
  The fewest digits that read back

  A double is written with the fewest decimal digits that round to it, and among
  those with the nearest. For each number of digits the two neighbours of the
  value on the decimal grid are tried: if any point of the grid rounds to the
  double, so does one of them.
-/

namespace AccessDecision.Decimal

/-- A decimal number: digits, and the power of ten of the first of them. -/
structure Numeral where
  digits : List Char
  power : Int
deriving DecidableEq, Repr

namespace Binary64

/-- The reals that round to a double, as quotients over one denominator; the ends
belong to them if the significand is even. -/
structure Interval where
  low : Nat
  high : Nat
  value : Nat
  den : Nat
  closed : Bool

/-- The reals that round to a positive double. Below a power of two the distance
to the next double is half as large. -/
def interval (x : Binary64) : Interval :=
  let m := x.significand
  let narrow := m == 2 ^ 52 && decide (minExponent < x.exponent)
  let (unit, den) := scale 1 1 (x.exponent - 2)
  { low := (4 * m - if narrow then 1 else 2) * unit
    high := (4 * m + 2) * unit
    value := 4 * m * unit
    den := den
    closed := m % 2 == 0 }

/-- Whether `n / d` rounds to the double. -/
def Interval.holds (iv : Interval) (n d : Nat) : Bool :=
  let x := n * iv.den
  if iv.closed then iv.low * d ≤ x && x ≤ iv.high * d else iv.low * d < x && x < iv.high * d

/-- The power of ten of the first digit of `num / den`, which is positive. -/
def leadingPower (num den : Nat) : Int :=
  if den ≤ num then ((Nat.toDigits 10 (num / den)).length : Int) - 1
  else search (num.log2 + den.log2 + 2) num 0
where
  /-- How often the value has to be multiplied by ten to reach one. -/
  search : (fuel : Nat) → (num : Nat) → Int → Int
    | 0, _, p => p
    | fuel + 1, num, p => if den ≤ num then p else search fuel (num * 10) (p - 1)

/-- A positive value `k * 10 ^ e` as a decimal number without zeros at the end. -/
def numeralOf (k : Nat) (e : Int) : Numeral :=
  let digits := Nat.toDigits 10 k
  { digits := (digits.reverse.dropWhile (· == '0')).reverse
    power := e + digits.length - 1 }

/-- The nearest of the two neighbours of the value on the grid of `10 ^ e` that
round to the double. -/
def nearestOnGrid (iv : Interval) (e : Int) : Option Numeral :=
  let (unit, unitDen) : Nat × Nat := match e with
    | .ofNat n => (10 ^ n, 1)
    | .negSucc n => (1, 10 ^ (n + 1))
  let num := iv.value * unitDen
  let den := iv.den * unit
  let k := num / den
  let below := iv.holds (k * unit) unitDen && k != 0
  let above := iv.holds ((k + 1) * unit) unitDen
  let r := num % den
  if below && (!above || 2 * r < den || (2 * r == den && k % 2 == 0)) then some (numeralOf k e)
  else if above then some (numeralOf (k + 1) e)
  else none

/-- The first grid that holds a decimal number rounding to the double, from `n`
digits on. -/
def firstGrid (iv : Interval) (power : Int) : (fuel : Nat) → (n : Nat) → Numeral
  | 0, _ => ⟨['0'], 0⟩
  | fuel + 1, n =>
    match nearestOnGrid iv (power - n + 1) with
    | some d => d
    | none => firstGrid iv power fuel (n + 1)

/-- The shortest decimal number that rounds to the double. -/
def shortest (x : Binary64) : Numeral :=
  if x.isZero then ⟨['0'], 0⟩
  else
    let iv := x.interval
    firstGrid iv (leadingPower iv.value iv.den) 17 1

end Binary64

end AccessDecision.Decimal
