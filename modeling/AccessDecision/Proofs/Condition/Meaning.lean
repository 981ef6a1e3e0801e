import AccessDecision.Condition.Evaluation
import AccessDecision.Proofs.Network.Texts
import Mathlib.Algebra.Group.Int.Defs
import Mathlib.Data.Prod.Lex

/-
  What a condition says

  A condition is read here as it is written, value by value: no comparator is
  built, and each acceptable text is looked at where the value is compared with
  it. `Operator.Holds op x v` says that the value `x` satisfies the operator with
  the acceptable text `v` alone, and `Condition.Holds` puts the conditions on
  operators, attributes and texts together.

  What does not read as what an operator compares satisfies nothing, with one
  exception: of a timestamp and a text that is none each differs from the other.
-/

namespace AccessDecision.Condition

/-! ## How texts and values read -/

/-- The integer in 64 bits that a text writes, with a sign if it likes. -/
def WritesInteger (text : String) (n : Int) : Prop :=
  -2 ^ 63 ≤ n ∧ n < 2 ^ 63 ∧ ∃ digits m, Text.WritesNat digits m ∧
    (text.toList = digits ∧ n = m ∨ text.toList = '+' :: digits ∧ n = m ∨
      text.toList = '-' :: digits ∧ n = -m)

/-- The integer that a value reads as. Integers of a request have 64 bits, with or
without a sign, so only the greatest ones are out of range. -/
def ReadsInteger : Value → Int → Prop
  | .number (.integer k), n => k = n ∧ n < 2 ^ 63
  | .string s, n => WritesInteger s n
  | _, _ => False

/-- The boolean that a text writes. -/
def WritesBool (text : String) (b : Bool) : Prop := text = if b then "true" else "false"

/-- The boolean that a value reads as. -/
def ReadsBool : Value → Bool → Prop
  | .boolean a, b => a = b
  | .string s, b => WritesBool s b
  | .number _, _ => False

/-- The instant that a text writes. -/
def WritesInstant (text : String) (i : Time.Instant) : Prop :=
  ∃ t, Time.Timestamp.ofText? text = some t ∧ t.instant = i

/-- The instant that a value reads as; only strings do. -/
def ReadsInstant (x : Value) (i : Time.Instant) : Prop := ∃ s, x = .string s ∧ WritesInstant s i

/-- The address that a text writes, in short form where it has one. -/
def WritesAddress (text : String) (a : Network.Address) : Prop :=
  ∃ b, Network.Address.ofText? text = some b ∧ b.canonical = a

/-- The address that a value reads as; only strings do. -/
def ReadsAddress (x : Value) (a : Network.Address) : Prop := ∃ s, x = .string s ∧ WritesAddress s a

/-- Whether a text is an address or a block. -/
def IsAddressRule (text : String) : Prop :=
  (∃ a, WritesAddress text a) ∨ ∃ b, Network.Block.ofText? text = some b

/-- Whether an address is the one that a text writes, or lies in the block that it
writes. -/
def Lists (text : String) (a : Network.Address) : Prop :=
  WritesAddress text a ∨ ∃ b, Network.Block.ofText? text = some b ∧ b.Covers a

/-! ## How values compare -/

/-- What an order relation says in a linear order. -/
def OrderRelation.Relates {α : Type} [LinearOrder α] : OrderRelation → α → α → Prop
  | equals, a, b => a = b
  | notEquals, a, b => a ≠ b
  | lessThan, a, b => a < b
  | lessThanEquals, a, b => a ≤ b
  | greaterThan, a, b => a > b
  | greaterThanEquals, a, b => a ≥ b

/-- An instant in the order of time: seconds first, then what is past them. -/
def instantKey (i : Time.Instant) : Int ×ₗ Nat := toLex (i.seconds, i.nanos)

/-- Both sides read as integers that compare. -/
def ComparesIntegers (r : OrderRelation) (x : Value) (v : String) : Prop :=
  ∃ m n, ReadsInteger x m ∧ WritesInteger v n ∧ r.Relates m n

/-- Both sides read as instants that compare, or exactly one does and the relation
is that of difference. -/
def ComparesInstants (r : OrderRelation) (x : Value) (v : String) : Prop :=
  (∃ i j, ReadsInstant x i ∧ WritesInstant v j ∧ r.Relates (instantKey i) (instantKey j)) ∨
  (r = .notEquals ∧ ¬ ((∃ i, ReadsInstant x i) ↔ ∃ j, WritesInstant v j))

/-- What an operator says of a value and one acceptable text. -/
def Operator.Holds : Operator → Value → String → Prop
  | stringEquals, x, v => x.asText = v
  | stringNotEquals, x, v => x.asText ≠ v
  | stringEqualsIgnoreCase, x, v => Unicode.foldCase x.asText = Unicode.foldCase v
  | stringNotEqualsIgnoreCase, x, v => Unicode.foldCase x.asText ≠ Unicode.foldCase v
  | stringLike, x, v => v.toList <:+: x.asText.toList
  | stringNotLike, x, v => ¬ v.toList <:+: x.asText.toList
  | numericEquals, x, v => ComparesIntegers .equals x v
  | numericNotEquals, x, v => ComparesIntegers .notEquals x v
  | numericLessThan, x, v => ComparesIntegers .lessThan x v
  | numericLessThanEquals, x, v => ComparesIntegers .lessThanEquals x v
  | numericGreaterThan, x, v => ComparesIntegers .greaterThan x v
  | numericGreaterThanEquals, x, v => ComparesIntegers .greaterThanEquals x v
  | dateEquals, x, v => ComparesInstants .equals x v
  | dateNotEquals, x, v => ComparesInstants .notEquals x v
  | dateLessThan, x, v => ComparesInstants .lessThan x v
  | dateLessThanEquals, x, v => ComparesInstants .lessThanEquals x v
  | dateGreaterThan, x, v => ComparesInstants .greaterThan x v
  | dateGreaterThanEquals, x, v => ComparesInstants .greaterThanEquals x v
  | bool, x, v => ∃ b, ReadsBool x b ∧ WritesBool v b
  | ipAddress, x, v => ∃ a, ReadsAddress x a ∧ IsAddressRule v ∧ Lists v a
  | notIpAddress, x, v => ∃ a, ReadsAddress x a ∧ IsAddressRule v ∧ ¬ Lists v a

/-- What a condition says of a context: every operator name is known, and every
attribute under it is in the context with a value for which one of the acceptable
texts satisfies the operator. -/
def Holds (c : Condition) (context : Context) : Prop :=
  ∀ name attributes, c.get? name = some attributes →
    ∃ op : Operator, op.name = name ∧
      ∀ key texts, attributes.get? key = some texts →
        ∃ x, context.get? key = some x ∧ ∃ v ∈ texts, op.Holds x v

/-! ## The readers read what is written -/

theorem integerOfText?_positive {digits : List Char} {n : Int} :
    integerOfText?.positive digits = some n ↔
      n < 2 ^ 63 ∧ ∃ m, Text.WritesNat digits m ∧ n = m := by
  have hmax : Json.Number.maxSigned = 2 ^ 63 - 1 := rfl
  simp only [integerOfText?.positive, Option.bind_eq_some_iff, Text.decimal?_eq_some,
    Option.ite_none_right_eq_some, Option.some.injEq]
  constructor
  · intro h
    obtain ⟨m, hm, hle, rfl⟩ := h
    exact ⟨by omega, m, hm, rfl⟩
  · intro h
    obtain ⟨hlt, m, hm, rfl⟩ := h
    exact ⟨m, hm, by omega, rfl⟩

theorem integerOfText?_eq_some {text : String} {n : Int} :
    integerOfText? text = some n ↔ WritesInteger text n := by
  have hsign : ∀ {c : Char} {digits : List Char} {m : Nat}, Text.WritesNat (c :: digits) m →
      c ≠ '+' ∧ c ≠ '-' := by
    intro c digits m h
    have hc := h.isDigit.2 c List.mem_cons_self
    constructor <;> (intro h; subst h; revert hc; decide)
  have hmax : Json.Number.maxSigned = 2 ^ 63 - 1 := rfl
  -- A text has a minus, a plus or no sign; its digits have none.
  unfold integerOfText? WritesInteger
  split
  · rename_i digits htext
    simp only [Option.bind_eq_some_iff, Text.decimal?_eq_some, Option.ite_none_right_eq_some,
      Option.some.injEq, htext]
    constructor
    · intro h
      obtain ⟨m, hm, hle, rfl⟩ := h
      exact ⟨by omega, by omega, digits, m, hm, .inr (.inr ⟨rfl, rfl⟩)⟩
    · intro h
      rcases h with ⟨hge, _, ds, m, hm, ⟨rfl, _⟩ | ⟨heq, _⟩ | ⟨heq, rfl⟩⟩
      · exact absurd rfl (hsign hm).2
      · simp at heq
      · obtain rfl := (List.cons.inj heq).2
        exact ⟨m, hm, by omega, rfl⟩
  · rename_i digits htext
    rw [integerOfText?_positive]
    simp only [htext]
    constructor
    · intro h
      obtain ⟨hlt, m, hm, rfl⟩ := h
      exact ⟨by omega, hlt, digits, m, hm, .inr (.inl ⟨rfl, rfl⟩)⟩
    · intro h
      rcases h with ⟨_, hlt, ds, m, hm, ⟨rfl, _⟩ | ⟨heq, rfl⟩ | ⟨heq, _⟩⟩
      · exact absurd rfl (hsign hm).1
      · obtain rfl := (List.cons.inj heq).2
        exact ⟨hlt, m, hm, rfl⟩
      · simp at heq
  · rename_i hminus hplus
    rw [integerOfText?_positive]
    constructor
    · intro h
      obtain ⟨hlt, m, hm, rfl⟩ := h
      exact ⟨by omega, hlt, _, m, hm, .inl ⟨rfl, rfl⟩⟩
    · intro h
      rcases h with ⟨_, hlt, ds, m, hm, ⟨rfl, rfl⟩ | ⟨heq, _⟩ | ⟨heq, _⟩⟩
      · exact ⟨hlt, m, hm, rfl⟩
      · exact absurd heq (hplus ds)
      · exact absurd heq (hminus ds)

theorem asInteger?_eq_some {x : Value} {n : Int} : asInteger? x = some n ↔ ReadsInteger x n := by
  match x with
  | .boolean b => simp [asInteger?, ReadsInteger]
  | .string s => exact integerOfText?_eq_some
  | .number (.double negative size) => simp [asInteger?, ReadsInteger, Json.Number.asInteger]
  | .number (.integer k) =>
    have hmax : Json.Number.maxSigned = 2 ^ 63 - 1 := rfl
    simp only [asInteger?, ReadsInteger, Json.Number.asInteger, Option.ite_none_right_eq_some,
      Option.some.injEq]
    omega

theorem boolOfText?_eq_some {text : String} {b : Bool} :
    boolOfText? text = some b ↔ WritesBool text b := by
  unfold boolOfText? WritesBool
  split
  · cases b <;> simp
  · cases b <;> simp
  · rename_i htrue hfalse
    cases b with
    | false => simpa using hfalse
    | true => simpa using htrue

theorem asBool?_eq_some {x : Value} {b : Bool} : asBool? x = some b ↔ ReadsBool x b := by
  match x with
  | .boolean a => simp [asBool?, ReadsBool]
  | .string s => exact boolOfText?_eq_some
  | .number n => simp [asBool?, ReadsBool]

theorem asString?_eq_some {x : Value} {s : String} : x.asString? = some s ↔ x = .string s := by
  match x with
  | .boolean b => simp [Json.Scalar.asString?]
  | .string t => simp [Json.Scalar.asString?]
  | .number n => simp [Json.Scalar.asString?]

theorem addressOf?_eq_some {x : Value} {a : Network.Address} :
    Comparator.addressOf? x = some a ↔ ReadsAddress x a := by
  simp only [Comparator.addressOf?, Option.map_eq_some_iff, Option.bind_eq_some_iff,
    asString?_eq_some, ReadsAddress, WritesAddress]
  constructor
  · intro h
    obtain ⟨b, ⟨s, rfl, hb⟩, rfl⟩ := h
    exact ⟨s, rfl, b, hb, rfl⟩
  · intro h
    obtain ⟨s, rfl, b, hb, rfl⟩ := h
    exact ⟨b, ⟨s, rfl, hb⟩, rfl⟩

theorem addressOf?_string {text : String} {a : Network.Address}
    (h : Network.Address.ofText? text = some a) :
    Comparator.addressOf? (.string text) = some a.canonical :=
  addressOf?_eq_some.mpr ⟨text, rfl, a, h, rfl⟩

end AccessDecision.Condition
