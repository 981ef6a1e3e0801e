import AccessDecision.Condition.Operator
import AccessDecision.Condition.Value
import AccessDecision.Network.Block
import AccessDecision.Time.Timestamp
import AccessDecision.Unicode.Case

/-
  Comparators

  An operator and the acceptable texts of an attribute make a comparator, in
  which the texts are already read as what the family of the operator compares.
  A text that cannot be read keeps its place, but satisfies nothing; the one
  exception is that a timestamp differs from a text that is none. One acceptable
  value that satisfies the comparison is enough.
-/

namespace AccessDecision.Condition

/-- A comparison of strings. -/
inductive StringRelation where
  | equals
  | notEquals
  | equalsIgnoreCase
  | notEqualsIgnoreCase
  | contains
  | notContains
deriving DecidableEq, Repr

/-- Whether a text occurs in another. -/
def occursIn (part : List Char) : List Char → Bool
  | [] => part.isEmpty
  | c :: rest => part.isPrefixOf (c :: rest) || occursIn part rest

namespace StringRelation

/-- Whether case does not count. -/
def ignoresCase : StringRelation → Bool
  | equalsIgnoreCase | notEqualsIgnoreCase => true
  | _ => false

/-- A text as the relation compares it. -/
def prepare (r : StringRelation) (s : String) : String :=
  if r.ignoresCase then Unicode.foldCase s else s

/-- Whether the relation holds between two prepared texts. -/
def holds (r : StringRelation) (actual expected : String) : Bool :=
  match r with
  | equals | equalsIgnoreCase => actual == expected
  | notEquals | notEqualsIgnoreCase => actual != expected
  | contains => occursIn expected.toList actual.toList
  | notContains => !occursIn expected.toList actual.toList

end StringRelation

/-- A comparison by an order. -/
inductive OrderRelation where
  | equals
  | notEquals
  | lessThan
  | lessThanEquals
  | greaterThan
  | greaterThanEquals
deriving DecidableEq, Repr

/-- Whether an order relation holds between the actual and the acceptable value
of a linearly ordered type. -/
def OrderRelation.holds {α : Type} [LT α] [DecidableEq α] [DecidableRel (α := α) (· < ·)]
    (r : OrderRelation) (actual expected : α) : Bool :=
  match r with
  | equals => actual = expected
  | notEquals => actual ≠ expected
  | lessThan => actual < expected
  | lessThanEquals => actual < expected ∨ actual = expected
  | greaterThan => expected < actual
  | greaterThanEquals => expected < actual ∨ actual = expected

/-- What an acceptable text says about addresses. -/
inductive AddressRule where
  | address (a : Network.Address)
  | block (b : Network.Block)
  | invalid
deriving DecidableEq, Repr

namespace AddressRule

/-- The rule that a text is: an address, else a block. -/
def ofText (text : String) : AddressRule :=
  match Network.Address.ofText? text with
  | some a => address a.canonical
  | none =>
    match Network.Block.ofText? text with
    | some b => block b
    | none => invalid

/-- Whether the rule covers an address; absent if the rule is unusable. -/
def covers? : AddressRule → Network.Address → Option Bool
  | address a, ip => some (a == ip)
  | block b, ip => some (b.contains ip)
  | invalid, _ => none

end AddressRule

/-- A comparison with the acceptable values of one attribute. -/
inductive Comparator where
  | string (relation : StringRelation) (values : List String)
  | numeric (relation : OrderRelation) (values : List (Option Int))
  | date (relation : OrderRelation) (values : List (Option Time.Timestamp))
  | bool (values : List (Option Bool))
  | ip (negated : Bool) (values : List AddressRule)
deriving DecidableEq, Repr

namespace Comparator

/-- A comparator of strings. -/
def ofStrings (r : StringRelation) (texts : List String) : Comparator :=
  string r (texts.map r.prepare)

/-- A comparator of integers. -/
def ofNumbers (r : OrderRelation) (texts : List String) : Comparator :=
  numeric r (texts.map integerOfText?)

/-- A comparator of timestamps. -/
def ofDates (r : OrderRelation) (texts : List String) : Comparator :=
  date r (texts.map Time.Timestamp.ofText?)

/-- A comparator of addresses. -/
def ofAddresses (negated : Bool) (texts : List String) : Comparator :=
  ip negated (texts.map AddressRule.ofText)

/-- Whether a date relation holds where the value or the acceptable text may be
no timestamp. A timestamp differs from what is none. -/
def dateHolds (r : OrderRelation) :
    (actual expected : Option Time.Timestamp) → Bool
  | some a, some e => r.holds a.instant e.instant
  | some _, none | none, some _ => r == .notEquals
  | none, none => false

/-- The address that a value is, in short form where it has one. -/
def addressOf? (x : Value) : Option Network.Address :=
  (x.asString?.bind Network.Address.ofText?).map Network.Address.canonical

/-- Whether an attribute value satisfies the comparison with one of the
acceptable values. -/
def accepts : Comparator → Value → Bool
  | string r values, x => values.any (r.holds (r.prepare x.asText))
  | numeric r values, x =>
    match asInteger? x with
    | some n => values.any fun v => v.any (r.holds n)
    | none => false
  | date r values, x => values.any (dateHolds r (x.asString?.bind Time.Timestamp.ofText?))
  | bool values, x =>
    match asBool? x with
    | some b => values.any fun v => v == some b
    | none => false
  | ip negated values, x =>
    match addressOf? x with
    | some a => values.any fun rule => (rule.covers? a).any (· != negated)
    | none => false

end Comparator

/-- The comparator of an operator for some acceptable texts. -/
def Operator.comparator : Operator → List String → Comparator
  | stringEquals => .ofStrings .equals
  | stringNotEquals => .ofStrings .notEquals
  | stringEqualsIgnoreCase => .ofStrings .equalsIgnoreCase
  | stringNotEqualsIgnoreCase => .ofStrings .notEqualsIgnoreCase
  | stringLike => .ofStrings .contains
  | stringNotLike => .ofStrings .notContains
  | numericEquals => .ofNumbers .equals
  | numericNotEquals => .ofNumbers .notEquals
  | numericLessThan => .ofNumbers .lessThan
  | numericLessThanEquals => .ofNumbers .lessThanEquals
  | numericGreaterThan => .ofNumbers .greaterThan
  | numericGreaterThanEquals => .ofNumbers .greaterThanEquals
  | dateEquals => .ofDates .equals
  | dateNotEquals => .ofDates .notEquals
  | dateLessThan => .ofDates .lessThan
  | dateLessThanEquals => .ofDates .lessThanEquals
  | dateGreaterThan => .ofDates .greaterThan
  | dateGreaterThanEquals => .ofDates .greaterThanEquals
  | bool => fun texts => .bool (texts.map boolOfText?)
  | ipAddress => .ofAddresses false
  | notIpAddress => .ofAddresses true

end AccessDecision.Condition
