import AccessDecision.Condition.Evaluation
import AccessDecision.Pattern.Matcher

/-
  Policy statements

  A statement names actions and resources by pattern lists and may carry
  conditions. It applies to a request if one of its action entries matches, one
  of its resource entries does, and its conditions hold. What follows from the
  effects of several statements is not decided here.
-/

namespace AccessDecision

/-- What a statement does where it applies. -/
inductive Effect where
  | allow
  | deny
deriving DecidableEq, Repr

/-- Whom a statement is about. -/
structure Principal where
  iam : List String := []
  service : List String := []
  federated : List String := []
deriving DecidableEq, Repr

/-- Whether nobody is named. -/
def Principal.isEmpty (p : Principal) : Bool :=
  p.iam.isEmpty && p.service.isEmpty && p.federated.isEmpty

/-- A policy statement. -/
structure PolicyStatement where
  version : Option String
  effect : Effect
  resources : List String
  actions : List String
  principal : Principal
  conditions : Condition
deriving DecidableEq

/-- The elements of some pattern lists, in order. -/
def elementsOf (entries : List String) : List String := entries.flatMap patternElements

namespace PolicyStatement

/-- A statement without version, principal and conditions. -/
def ofLists (effect : Effect) (actions resources : List String) : PolicyStatement :=
  ⟨none, effect, resources, actions, {}, .empty⟩

/-- Sets the conditions. -/
def withConditions (s : PolicyStatement) (conditions : Condition) : PolicyStatement :=
  { s with conditions := conditions }

/-- Whether a candidate matches one of some pattern lists, from the first on. Each list
has the times behind those of the elements of the lists before it. -/
def matchesEntry (clock : Clock) (candidate : String) (m : PatternMatcher) :
    List String → Except PolicyError Bool × PatternMatcher
  | [] => (.ok false, m)
  | patterns :: rest =>
    match m.matchesList clock candidate patterns with
    | (.ok false, m) =>
      matchesEntry (clock.drop (patternElements patterns).length) candidate m rest
    | decided => decided

/-- Whether the statement applies to an action on a resource in a context. The resources
have the times behind those of all action elements. -/
def applies (clock : Clock) (s : PolicyStatement) (m : PatternMatcher)
    (action resource : String) (context : Context) : Except PolicyError Bool × PatternMatcher :=
  match matchesEntry clock action m s.actions with
  | (.ok true, m) =>
    match matchesEntry (clock.drop (elementsOf s.actions).length) resource m s.resources with
    | (.ok true, m) => (.ok ((ConditionSet.ofCondition s.conditions).evaluate context), m)
    | undecided => undecided
  | undecided => undecided

end PolicyStatement

end AccessDecision
