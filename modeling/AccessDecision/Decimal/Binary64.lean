import AccessDecision.Power

/-
  Binary floating point in exact arithmetic

  A finite double is a significand and an exponent of two. `ofRatio` rounds a
  quotient of natural numbers to the nearest double, a tie going to the even
  significand; products and quotients of doubles round the exact result.
-/

namespace AccessDecision.Decimal

/-- The size of a finite double, `significand * 2 ^ exponent`. The significand
has at most 53 bits, and exactly 53 unless the exponent is the least one. -/
structure Binary64 where
  significand : Nat
  exponent : Int
deriving DecidableEq, Repr

namespace Binary64

/-- The least exponent. -/
def minExponent : Int := -1074

/-- The greatest exponent. -/
def maxExponent : Int := 971

/-- Zero. -/
def zero : Binary64 := ⟨0, minExponent⟩

/-- Scales `num / den` by a power of two, as a quotient. -/
def scale (num den : Nat) (exponent : Int) : Nat × Nat :=
  match exponent with
  | .ofNat n => (num * 2 ^ n, den)
  | .negSucc n => (num, den * 2 ^ (n + 1))

/-- The nearest natural number to `num / den`; a tie goes to the even one. -/
def roundDiv (num den : Nat) : Nat :=
  let q := num / den
  let r := num % den
  if 2 * r < den then q
  else if den < 2 * r then q + 1
  else if q % 2 = 0 then q else q + 1

/-- The exponent at which `num / den` has a full significand, or the least one. -/
def exponentFor (num den : Nat) : Int :=
  let guess : Int := (num.log2 : Int) - den.log2 - 52
  let (n, d) := scale num den (-guess)
  max minExponent (if n / d < 2 ^ 52 then guess - 1 else guess)

/-- The double nearest to `num / den`; absent if it lies beyond the greatest
one. -/
def ofRatio (num den : Nat) : Option Binary64 :=
  if num = 0 then some zero
  else
    let e := exponentFor num den
    let (n, d) := scale num den (-e)
    let m := roundDiv n d
    let rounded : Binary64 := if m = 2 ^ 53 then ⟨2 ^ 52, e + 1⟩ else ⟨m, e⟩
    if rounded.exponent ≤ maxExponent then some rounded else none

/-- The exact value as a quotient. -/
def toRatio (x : Binary64) : Nat × Nat := scale x.significand 1 x.exponent

/-- Whether the value is zero. -/
def isZero (x : Binary64) : Bool := x.significand == 0

/-- The rounded product with a power of ten, itself rounded first. -/
def mulPowTen (x : Binary64) (n : Nat) : Option Binary64 := do
  let p ← ofRatio (10 ^ n) 1
  let (a, b) := x.toRatio
  let (c, d) := p.toRatio
  ofRatio (a * c) (b * d)

/-- The rounded quotient by a power of ten, itself rounded first. -/
def divPowTen (x : Binary64) (n : Nat) : Option Binary64 := do
  let p ← ofRatio (10 ^ n) 1
  let (a, b) := x.toRatio
  let (c, d) := p.toRatio
  ofRatio (a * d) (b * c)

/-- The greatest power of ten that is a double. -/
def maxPowTen : Nat := 308

/-- The double for `m * 10 ^ e` as it results from rounding at each step: `m`
first, then one product or quotient for each full `10 ^ 308`, and one for the
rest. Absent if the value is out of range. -/
def ofDecimal (m : Nat) (e : Int) : Option Binary64 := do
  let x ← ofRatio m 1
  match e with
  | .ofNat n =>
    if n ≤ maxPowTen then x.mulPowTen n
    else if x.isZero then some x else none
  | .negSucc n => shrink (n + 1) x (n + 1)
where
  /-- Divides by `10 ^ n`; the fuel bounds the number of divisions. -/
  shrink : (fuel : Nat) → Binary64 → (n : Nat) → Option Binary64
    | 0, x, _ => some x
    | fuel + 1, x, n =>
      if n ≤ maxPowTen then x.divPowTen n
      else if x.isZero then some x
      else do shrink fuel (← x.divPowTen maxPowTen) (n - maxPowTen)

end Binary64

end AccessDecision.Decimal
