import AccessDecision.Condition.Comparator
import AccessDecision.Condition.Document

/-
  Deciding conditions

  A condition is made ready once (`ConditionSet.ofCondition`) and then decided
  for any number of contexts. Every operator block has to hold, and in a block
  every attribute; an attribute holds if one of its acceptable values does. What
  cannot be decided does not hold: an operator that is not known, or an attribute
  that the context lacks.
-/

namespace AccessDecision

namespace Condition

/-- One attribute with its comparator. -/
structure Check where
  key : String
  comparator : Comparator
deriving DecidableEq, Repr

/-- The attributes under one operator. -/
inductive Block where
  /-- No operator has the name. -/
  | unknown (name : String)
  | known (operator : Operator) (checks : List Check)
deriving DecidableEq, Repr

namespace Check

/-- Whether the context has the attribute and its value is accepted. -/
def holds (c : Check) (context : Context) : Bool :=
  match context.get? c.key with
  | some x => c.comparator.accepts x
  | none => false

end Check

namespace Block

/-- The block of the attributes written under a name. -/
def ofEntry (name : String) (attributes : KeyMap (List String)) : Block :=
  match Operator.ofName? name with
  | some op => known op (attributes.entries.map fun e => ⟨e.1, op.comparator e.2⟩)
  | none => unknown name

/-- Whether every attribute holds. -/
def holds : Block → Context → Bool
  | unknown _, _ => false
  | known _ checks, context => checks.all (·.holds context)

end Block

end Condition

/-- A condition made ready for deciding. -/
structure ConditionSet where
  blocks : List Condition.Block
deriving DecidableEq, Repr

namespace ConditionSet

/-- Reads the operators and acceptable texts of a condition. -/
def ofCondition (c : Condition) : ConditionSet :=
  ⟨c.entries.map fun e => Condition.Block.ofEntry e.1 e.2⟩

/-- Whether there is no block. -/
def isEmpty (s : ConditionSet) : Bool := s.blocks.isEmpty

/-- Whether every block holds. -/
def evaluate (s : ConditionSet) (context : Context) : Bool := s.blocks.all (·.holds context)

end ConditionSet

end AccessDecision
