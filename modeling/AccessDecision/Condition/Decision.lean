import AccessDecision.Condition.Evaluation
import AccessDecision.PolicyError

/-
  Deciding on documents

  Condition and context come as JSON texts. A text that does not decode is an
  error; all else is a decision.
-/

namespace AccessDecision

/-- The condition that a text holds. -/
def parseCondition (text : String) : Except PolicyError Condition :=
  (Condition.ofText text).mapError .invalidCondition

/-- The context that a text holds. -/
def parseContext (text : String) : Except PolicyError Context :=
  (Context.ofText text).mapError .invalidContext

/-- Whether the context satisfies the condition. A fault in the condition is
reported before one in the context. -/
def evaluateConditions (context condition : String) : Except PolicyError Bool :=
  match parseCondition condition with
  | .error e => .error e
  | .ok condition =>
    match parseContext context with
    | .error e => .error e
    | .ok context => .ok ((ConditionSet.ofCondition condition).evaluate context)

end AccessDecision
