import AccessDecision.Policy.Statement

/-
  Policy documents

  A statement is written as an object whose members may come in any order; only
  the effect has to be there, and members of other names are passed over. It may
  also be a list of the values in their order, which may stop early. An effect is
  its name, or an object with that name and nothing in it.
-/

namespace AccessDecision

namespace Effect

/-- The name in documents. -/
def name : Effect → String
  | allow => "Allow"
  | deny => "Deny"

/-- The effect of a name. -/
def ofName (s : String) : Except Json.Fault Effect :=
  match s with
  | "Allow" => .ok allow
  | "Deny" => .ok deny
  | _ => .error (.unknownVariant s [allow.name, deny.name])

/-- Reads a null. -/
def readNull (cs : List Char) : Except Json.Fault (List Char) :=
  match Json.skipSpace cs with
  | [] => .error (.ended .value)
  | 'n' :: rest => (Json.readLiteral ['u', 'l', 'l'] rest).map (·.2)
  | rest => Json.wrongType .unit rest

/-- Reads the name of an effect. -/
def readName (cs : List Char) : Except Json.Fault (Effect × List Char) :=
  match Json.skipSpace cs with
  | [] => .error (.ended .value)
  | '"' :: rest => do
    let (s, rest) ← Json.readString rest
    .ok (← ofName s, rest)
  | rest => Json.wrongType .variantName rest

/-- Reads an effect. -/
def read (cs : List Char) : Except Json.Fault (Effect × List Char) :=
  match Json.skipSpace cs with
  | [] => .error (.ended .value)
  | '"' :: rest => readName ('"' :: rest)
  | '\x7b' :: rest => do
    let (effect, rest) ← readName rest
    let rest ← readNull (← Json.readColon rest)
    match Json.skipSpace rest with
    | [] => .error (.ended .object)
    | '\x7d' :: rest => .ok (effect, rest)
    | _ => .error .expectedValue
  | _ => .error .expectedValue

end Effect

namespace Json

/-- Reads the value of a member, given its key, unless the member was there
before. -/
def readField {α : Type} (value : Reader α) (key : String) (present : Option α)
    (cs : List Char) : Except Fault (Option α × List Char) :=
  match present with
  | some _ => .error (.duplicateField key)
  | none => do
    let (x, rest) ← value (← readColon cs)
    .ok (some x, rest)

/-- Passes over the value of a member. -/
def skipField (cs : List Char) : Except Fault (List Char) := do skipValue (← readColon cs)

/-- Reads the next element of a list if there is one; `first` says that none was
read yet. -/
def readElement? {α : Type} (value : Reader α) (first : Bool) (cs : List Char) :
    Except Fault (Option α × List Char) := do
  let (more, rest) ← moreElements first cs
  if more then
    let (x, rest) ← value rest
    .ok (some x, rest)
  else .ok (none, rest)

/-- Reads a list of strings. -/
def readStrings : Reader (List String) := readList readStringValue

/-- Writes a list of strings. -/
def writeStrings (ss : List String) : Writer := writeList (ss.map writeString)

end Json

namespace Principal

/-- The members that have been read. -/
structure Partial where
  iam : Option (List String) := none
  service : Option (List String) := none
  federated : Option (List String) := none

/-- The principal of some members; those that are missing are empty. -/
def ofPartial (p : Partial) : Principal :=
  ⟨p.iam.getD [], p.service.getD [], p.federated.getD []⟩

/-- Reads a member. -/
def readMember (p : Partial) (key : String) (cs : List Char) :
    Except Json.Fault (Partial × List Char) :=
  match key with
  | "IAM" =>
    (Json.readField Json.readStrings key p.iam cs).map fun (x, rest) => ({ p with iam := x }, rest)
  | "Service" =>
    (Json.readField Json.readStrings key p.service cs).map fun (x, rest) =>
      ({ p with service := x }, rest)
  | "Federated" =>
    (Json.readField Json.readStrings key p.federated cs).map fun (x, rest) =>
      ({ p with federated := x }, rest)
  | _ => (Json.skipField cs).map fun rest => (p, rest)

/-- Reads a principal. -/
def read (cs : List Char) : Except Json.Fault (Principal × List Char) :=
  match Json.skipSpace cs with
  | [] => .error (.ended .value)
  | '\x7b' :: rest => do
    let (p, rest) ← Json.readObjectBody readMember {} rest
    .ok (ofPartial p, rest)
  | '[' :: rest => do
    let (iam, rest) ← Json.readElement? Json.readStrings true rest
    let (service, rest) ← Json.readElement? Json.readStrings false rest
    let (federated, rest) ← Json.readElement? Json.readStrings false rest
    .ok (ofPartial ⟨iam, service, federated⟩, ← Json.readListEnd rest)
  | rest => Json.wrongType (.record "Principal") rest

/-- Writes a principal, without its empty lists. -/
def write (p : Principal) : Json.Writer :=
  Json.writeObject (member "IAM" p.iam ++ member "Service" p.service ++
    member "Federated" p.federated)
where
  member (name : String) (ss : List String) : List (String × Json.Writer) :=
    if ss.isEmpty then [] else [(name, Json.writeStrings ss)]

end Principal

namespace PolicyStatement

/-- The members that have been read. -/
structure Partial where
  version : Option (Option String) := none
  effect : Option Effect := none
  resources : Option (List String) := none
  actions : Option (List String) := none
  principal : Option Principal := none
  conditions : Option Condition := none

/-- The statement of some members, given its effect; those that are missing are
empty. -/
def ofPartial (p : Partial) (effect : Effect) : PolicyStatement :=
  ⟨p.version.getD none, effect, p.resources.getD [], p.actions.getD [], p.principal.getD {},
    p.conditions.getD .empty⟩

/-- Reads a version, which may be null. -/
def readVersion (cs : List Char) : Except Json.Fault (Option String × List Char) :=
  match Json.skipSpace cs with
  | 'n' :: rest => (Json.readLiteral ['u', 'l', 'l'] rest).map fun (_, rest) => (none, rest)
  | rest => (Json.readStringValue rest).map fun (s, rest) => (some s, rest)

/-- Reads a member. -/
def readMember (p : Partial) (key : String) (cs : List Char) :
    Except Json.Fault (Partial × List Char) :=
  match key with
  | "version" =>
    (Json.readField readVersion key p.version cs).map fun (x, rest) =>
      ({ p with version := x }, rest)
  | "effect" =>
    (Json.readField Effect.read key p.effect cs).map fun (x, rest) => ({ p with effect := x }, rest)
  | "resources" =>
    (Json.readField Json.readStrings key p.resources cs).map fun (x, rest) =>
      ({ p with resources := x }, rest)
  | "actions" =>
    (Json.readField Json.readStrings key p.actions cs).map fun (x, rest) =>
      ({ p with actions := x }, rest)
  | "principal" =>
    (Json.readField Principal.read key p.principal cs).map fun (x, rest) =>
      ({ p with principal := x }, rest)
  | "conditions" =>
    (Json.readField Condition.read key p.conditions cs).map fun (x, rest) =>
      ({ p with conditions := x }, rest)
  | _ => (Json.skipField cs).map fun rest => (p, rest)

/-- Reads a statement. -/
def read (cs : List Char) : Except Json.Fault (PolicyStatement × List Char) :=
  match Json.skipSpace cs with
  | [] => .error (.ended .value)
  | '\x7b' :: rest => do
    let (p, rest) ← Json.readObjectBody readMember {} rest
    match p.effect with
    | some effect => .ok (ofPartial p effect, rest)
    | none => .error (.missingField "effect")
  | '[' :: rest => do
    let (version, rest) ← Json.readElement? readVersion true rest
    let (effect?, rest) ← Json.readElement? Effect.read false rest
    match effect? with
    | none => .error (.tooFewElements 1 "PolicyStatement" 6)
    | some effect =>
      let (resources, rest) ← Json.readElement? Json.readStrings false rest
      let (actions, rest) ← Json.readElement? Json.readStrings false rest
      let (principal, rest) ← Json.readElement? Principal.read false rest
      let (conditions, rest) ← Json.readElement? Condition.read false rest
      .ok (ofPartial ⟨version, effect?, resources, actions, principal, conditions⟩ effect,
        ← Json.readListEnd rest)
  | rest => Json.wrongType (.record "PolicyStatement") rest

/-- The statement that a text holds. -/
def ofJson (text : String) : Except Json.Fault PolicyStatement := Json.readText read text

/-- Writes a statement, without a version, a principal or conditions that are
empty. -/
def write (s : PolicyStatement) : Json.Writer :=
  Json.writeObject (
    (s.version.elim [] fun v => [("version", Json.writeString v)]) ++
    [("effect", Json.writeString s.effect.name),
      ("resources", Json.writeStrings s.resources),
      ("actions", Json.writeStrings s.actions)] ++
    (if s.principal.isEmpty then [] else [("principal", s.principal.write)]) ++
    (if s.conditions.isEmpty then [] else [("conditions", Condition.write s.conditions)]))

/-- The text of a statement. -/
def toJson (s : PolicyStatement) : String := Json.indentedText s.write

end PolicyStatement

end AccessDecision
