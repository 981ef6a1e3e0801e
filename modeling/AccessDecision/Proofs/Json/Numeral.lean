import AccessDecision.Proofs.Json.RoundTrip
import AccessDecision.Proofs.Text.Digits
import Mathlib.Tactic.Ring

/-
  Numbers as they are written

  A number is written with a sign, digits, a fraction and an exponent (`NumeralText`).
  It is read as a significand of 64 bits, which holds its first digits, and a power of
  ten, so that digits behind those count only by their places. `Numeral.number` says
  what that comes to.

  What is proved:
    1. `addDigits_split` — the digits that the significand takes and those that it
       leaves make up the digits that are written.
    2. `addDigits_append_rest` — what it takes does not depend on what stands behind
       them.
-/

namespace AccessDecision.Json

open Text (Digits valueOf)

/-! ## The grammar -/

/-- An exponent: whether it counts up, and its digits. -/
structure Exponent where
  up : Bool
  digits : List Char

/-- A number as it is written. -/
structure Numeral where
  negative : Bool
  whole : List Char
  fraction : List Char
  exponent : Option Exponent

/-- Digits, without a zero in front of others. -/
def WholeText (t : List Char) : Prop := t ≠ [] ∧ Digits t ∧ (t.head? = some '0' → t = ['0'])

instance (t : List Char) : Decidable (WholeText t) :=
  inferInstanceAs (Decidable (t ≠ [] ∧ Digits t ∧ (t.head? = some '0' → t = ['0'])))

/-- A point and digits, or nothing. -/
inductive FractionText : List Char → List Char → Prop where
  | none : FractionText [] []
  | point {digits : List Char} : digits ≠ [] → Digits digits →
      FractionText digits ('.' :: digits)

/-- The sign of an exponent, which need not be written if it is positive. -/
inductive SignText : Bool → List Char → Prop where
  | none : SignText true []
  | plus : SignText true ['+']
  | minus : SignText false ['-']

/-- A letter, a sign and digits, or nothing. -/
inductive ExponentText : Option Exponent → List Char → Prop where
  | none : ExponentText none []
  | some {letter : Char} {up : Bool} {sign digits : List Char} : letter = 'e' ∨ letter = 'E' →
      SignText up sign → digits ≠ [] → Digits digits →
      ExponentText (some ⟨up, digits⟩) (letter :: (sign ++ digits))

/-- A number behind its sign. -/
def UnsignedText (n : Numeral) (t : List Char) : Prop :=
  WholeText n.whole ∧ ∃ fraction exponent, FractionText n.fraction fraction ∧
    ExponentText n.exponent exponent ∧ t = n.whole ++ (fraction ++ exponent)

/-- A number. -/
def NumeralText (n : Numeral) (t : List Char) : Prop :=
  ∃ body, UnsignedText n body ∧ t = (if n.negative then ['-'] else []) ++ body

/-! ## What a number comes to -/

/-- The power of ten that an exponent stands for. -/
def Exponent.value (e : Exponent) : Int :=
  if e.up then valueOf e.digits else -(valueOf e.digits : Int)

/-- A double, or the fault of a number that has none. -/
def asDouble (negative : Bool) : Option Decimal.Binary64 → Except Fault Number
  | some size => .ok (.double negative size)
  | none => .error .numberOutOfRange

/-- The double of a significand and a power of ten, which an exponent moves. One of more
than 31 bits makes any number but zero too great or too small. -/
def scaled? (significand : Nat) (scale : Int) : Option Exponent → Option Decimal.Binary64
  | none => Decimal.Binary64.ofDecimal significand scale
  | some e =>
    if valueOf e.digits ≤ maxExponent then
      Decimal.Binary64.ofDecimal significand (scale + e.value)
    else if e.up ∧ significand ≠ 0 then none
    else some Decimal.Binary64.zero

namespace Numeral

/-- What the significand takes of the digits before the point: its value, how many they
are, and those that it cannot hold. -/
def held (n : Numeral) : Nat × Nat × List Char := addDigits 0 0 n.whole

/-- The significand takes digits of the fraction as long as they fit. -/
def significand (n : Numeral) : Nat := (addDigits n.held.1 0 n.fraction).1

/-- The power of ten of the significand, before the exponent moves it. -/
def scale (n : Numeral) : Int := n.held.2.2.length - (addDigits n.held.1 0 n.fraction).2.1

/-- Whether the number is digits alone, and the significand holds them all. -/
def Whole (n : Numeral) : Prop := n.held.2.2 = [] ∧ n.fraction = [] ∧ n.exponent.isNone

instance (n : Numeral) : Decidable n.Whole :=
  inferInstanceAs (Decidable (n.held.2.2 = [] ∧ n.fraction = [] ∧ n.exponent.isNone))

/-- What the number is read as: a whole number, or a double. -/
def number (n : Numeral) : Except Fault Number :=
  if n.Whole then wholeNumber n.negative n.held.1
  else asDouble n.negative (scaled? n.significand n.scale n.exponent)

end Numeral

/-! ## Runs of digits -/

/-- No digit follows. -/
def NoDigit (rest : List Char) : Prop := rest.head?.any Char.isDigit = false

theorem Ends.noDigit {rest : List Char} (h : Ends rest) : NoDigit rest := h.head?_not_digit

theorem NoDigit.cons {c : Char} {rest : List Char} (h : NoDigit (c :: rest)) :
    c.isDigit = false := h

/-- A text is digits and a rest that starts with none. -/
theorem eq_digits_append (cs : List Char) :
    ∃ ds rest, Digits ds ∧ NoDigit rest ∧ cs = ds ++ rest := by
  refine ⟨cs.takeWhile Char.isDigit, cs.dropWhile Char.isDigit,
    fun _ hc => List.mem_takeWhile_imp hc, ?_, List.takeWhile_append_dropWhile.symm⟩
  cases hrest : cs.dropWhile Char.isDigit with
  | nil => rfl
  | cons c rest =>
    have hhead := List.head?_dropWhile_not Char.isDigit cs
    rw [hrest] at hhead
    simpa [NoDigit] using hhead

section
variable {ds rest : List Char}

theorem dropWhile_digits (hds : Digits ds) (hrest : NoDigit rest) :
    (ds ++ rest).dropWhile Char.isDigit = rest := by
  rw [List.dropWhile_append_of_pos hds]
  cases rest with
  | nil => rfl
  | cons c rest => rw [List.dropWhile_cons, hrest.cons, if_neg Bool.false_ne_true]

theorem takeWhile_digits (hds : Digits ds) (hrest : NoDigit rest) :
    (ds ++ rest).takeWhile Char.isDigit = ds := by
  have hsplit := List.takeWhile_append_dropWhile (p := Char.isDigit) (l := ds ++ rest)
  rw [dropWhile_digits hds hrest] at hsplit
  exact List.append_cancel_right hsplit

/-- Of digits with no further one behind them, the significand takes what it takes of
them alone. -/
theorem addDigits_append_rest (hrest : NoDigit rest) (significand count : Nat) :
    addDigits significand count (ds ++ rest) =
      ((addDigits significand count ds).1, (addDigits significand count ds).2.1,
        (addDigits significand count ds).2.2 ++ rest) := by
  induction ds generalizing significand count with
  | nil =>
    cases rest with
    | nil => rfl
    | cons c rest =>
      have hc := hrest.cons
      simp [addDigits, hc]
  | cons c ds ih =>
    rw [List.cons_append, addDigits, addDigits]
    split
    · exact ih _ _
    · rfl

/-- Digits behind others go on with the first of them. -/
theorem shift_cons (value : Nat) (c : Char) (ds : List Char) :
    value * 10 ^ (c :: ds).length + valueOf (c :: ds) =
      (value * 10 + digitValue c) * 10 ^ ds.length + valueOf ds := by
  have hcons := Text.valueOf_append [c] ds
  have hone : valueOf [c] = digitValue c := Nat.zero_add _
  rw [List.singleton_append, hone] at hcons
  rw [hcons, List.length_cons, Nat.pow_succ']
  ring

/-- What is taken and what is left make up the digits. -/
theorem addDigits_split (significand count : Nat) (ds : List Char) :
    ∃ taken, ds = taken ++ (addDigits significand count ds).2.2 ∧
      (addDigits significand count ds).1 = significand * 10 ^ taken.length + valueOf taken ∧
      (addDigits significand count ds).2.1 = count + taken.length := by
  induction ds generalizing significand count with
  | nil => exact ⟨[], rfl, by simp [addDigits, valueOf], rfl⟩
  | cons c ds ih =>
    rw [addDigits]
    split
    · obtain ⟨taken, hds, hvalue, hcount⟩ := ih (significand * 10 + digitValue c) (count + 1)
      refine ⟨c :: taken, congrArg (c :: ·) hds, ?_, ?_⟩
      · rw [hvalue, shift_cons]
      · rw [hcount, List.length_cons]
        omega
    · exact ⟨[], rfl, by simp [valueOf], rfl⟩

theorem digits_left (hds : Digits ds) (significand count : Nat) :
    Digits (addDigits significand count ds).2.2 := by
  obtain ⟨taken, hsplit, _⟩ := addDigits_split significand count ds
  intro c hc
  exact hds c (hsplit ▸ List.mem_append_right _ hc)

end

theorem ExponentText.noDigit {e : Option Exponent} {t rest : List Char} (h : ExponentText e t)
    (hrest : Ends rest) : NoDigit (t ++ rest) := by
  cases h with
  | none => exact hrest.noDigit
  | some hletter _ _ _ => rcases hletter with rfl | rfl <;> rfl

theorem FractionText.noDigit {f t rest : List Char} (h : FractionText f t)
    (hrest : NoDigit rest) : NoDigit (t ++ rest) := by
  cases h with
  | none => exact hrest
  | point _ _ => rfl

end AccessDecision.Json
