import AccessDecision.Text.Quoted

/-
  Condition operators

  There are twenty-one operators in five families. Each has the name under which
  policies refer to it.
-/

namespace AccessDecision.Condition

/-- A condition operator. -/
inductive Operator where
  | stringEquals
  | stringNotEquals
  | stringEqualsIgnoreCase
  | stringNotEqualsIgnoreCase
  | stringLike
  | stringNotLike
  | numericEquals
  | numericNotEquals
  | numericLessThan
  | numericLessThanEquals
  | numericGreaterThan
  | numericGreaterThanEquals
  | dateEquals
  | dateNotEquals
  | dateLessThan
  | dateLessThanEquals
  | dateGreaterThan
  | dateGreaterThanEquals
  | bool
  | ipAddress
  | notIpAddress
deriving DecidableEq, Repr

namespace Operator

/-- All operators. -/
def all : List Operator := [
  stringEquals, stringNotEquals, stringEqualsIgnoreCase, stringNotEqualsIgnoreCase,
  stringLike, stringNotLike,
  numericEquals, numericNotEquals, numericLessThan, numericLessThanEquals,
  numericGreaterThan, numericGreaterThanEquals,
  dateEquals, dateNotEquals, dateLessThan, dateLessThanEquals,
  dateGreaterThan, dateGreaterThanEquals,
  bool, ipAddress, notIpAddress]

/-- The name in policies. -/
def name : Operator → String
  | stringEquals => "StringEquals"
  | stringNotEquals => "StringNotEquals"
  | stringEqualsIgnoreCase => "StringEqualsIgnoreCase"
  | stringNotEqualsIgnoreCase => "StringNotEqualsIgnoreCase"
  | stringLike => "StringLike"
  | stringNotLike => "StringNotLike"
  | numericEquals => "NumericEquals"
  | numericNotEquals => "NumericNotEquals"
  | numericLessThan => "NumericLessThan"
  | numericLessThanEquals => "NumericLessThanEquals"
  | numericGreaterThan => "NumericGreaterThan"
  | numericGreaterThanEquals => "NumericGreaterThanEquals"
  | dateEquals => "DateEquals"
  | dateNotEquals => "DateNotEquals"
  | dateLessThan => "DateLessThan"
  | dateLessThanEquals => "DateLessThanEquals"
  | dateGreaterThan => "DateGreaterThan"
  | dateGreaterThanEquals => "DateGreaterThanEquals"
  | bool => "Bool"
  | ipAddress => "IPAddress"
  | notIpAddress => "NotIPAddress"

/-- The operator of a name. -/
def ofName? (s : String) : Option Operator := all.find? fun op => op.name == s

/-- The complaint about a name that no operator has. -/
def unknownMessage (s : String) : String := "unknown condition operator " ++ Text.quote s

end Operator

end AccessDecision.Condition
