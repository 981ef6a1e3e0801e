import AccessDecision.Decimal.Shortest

/-
  Numbers in JSON

  A number without fraction and exponent is an integer as long as it fits 64 bits
  (without sign if positive, with sign if negative); any other number is a
  double.
-/

namespace AccessDecision.Json

/-- A number. -/
inductive Number where
  | integer (n : Int)
  | double (negative : Bool) (size : Decimal.Binary64)
deriving DecidableEq, Repr

/-- How a double is written. -/
structure DoubleFormat where
  /-- The least power of ten of the first digit that is written positionally. -/
  minPower : Int
  /-- The greatest one. -/
  maxPower : Int
  /-- What stands behind a whole number. -/
  wholeEnd : List Char
  /-- The sign of a positive exponent. -/
  plus : List Char

/-- Doubles are positional from 1e-5 up to below 1e16, whole ones end in `.0`, and
an exponent always has its sign. -/
def doubleFormat : DoubleFormat := ⟨-5, 15, ['.', '0'], ['+']⟩

/-- A decimal number in the given format. -/
def DoubleFormat.write (f : DoubleFormat) (d : Decimal.Numeral) : List Char :=
  if f.minPower ≤ d.power ∧ d.power ≤ f.maxPower then
    match d.power with
    | .ofNat n =>
      let whole := (d.digits.take (n + 1)).rightpad (n + 1) '0'
      match d.digits.drop (n + 1) with
      | [] => whole ++ f.wholeEnd
      | fraction => whole ++ '.' :: fraction
    | .negSucc n => ['0', '.'] ++ List.replicate n '0' ++ d.digits
  else
    let fraction := match d.digits with
      | c :: [] => [c]
      | c :: rest => c :: '.' :: rest
      | [] => []
    let exponent := match d.power with
      | .ofNat n => f.plus ++ Nat.toDigits 10 n
      | .negSucc n => '-' :: Nat.toDigits 10 (n + 1)
    fraction ++ 'e' :: exponent

namespace Number

/-- The text of an integer. -/
def integerText : Int → List Char
  | .ofNat n => Nat.toDigits 10 n
  | .negSucc n => '-' :: Nat.toDigits 10 (n + 1)

/-- The text of a number. -/
def text : Number → List Char
  | integer n => integerText n
  | double negative size =>
    (if negative then ['-'] else []) ++ doubleFormat.write size.shortest

/-- The greatest integer without sign. -/
def maxUnsigned : Nat := 2 ^ 64 - 1

/-- The greatest integer with sign. -/
def maxSigned : Nat := 2 ^ 63 - 1

/-- The number as an integer with sign in 64 bits; absent for doubles. -/
def asInteger : Number → Option Int
  | integer n => if n ≤ maxSigned then some n else none
  | double _ _ => none

end Number

end AccessDecision.Json
