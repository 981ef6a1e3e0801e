import AccessDecision.Policy.Document
import AccessDecision.Proofs.Condition.Documents

/-
  Statements through their texts

  A statement is written member by member, and a member that says nothing is left
  out: a version that is absent, an empty list of a principal, a principal that
  names nobody, conditions without a block. Reading starts from a record of which no
  member has been read. A member that was written puts its value there, and one that
  was left out leaves its place empty (`kept`), which in the end is filled with just
  the value that is left out in writing.

  What is proved:
    1. `membersRead_field` and `membersRead_kept` — what one member that is written,
       or left out, does to the record that is being read.
    2. `Principal.readsBack` and `PolicyStatement.readsBack` — records of such
       members read back, in any layout.
    3. `PolicyStatement.ofJson_toJson` — the text of a statement holds the statement.
-/

namespace AccessDecision

namespace Json

section
variable {α σ : Type} {value : Reader α} {x : α} {write : Writer} {name : String}
  {member : σ → String → Reader σ}

/-- A member that was not there before is read as it is written. -/
theorem readField_written (h : ReadsBack value x write) (layout : Layout) {rest : List Char}
    (hrest : Ends rest) :
    readField value name none (':' :: (layout.gap ++ (write layout ++ rest))) =
      .ok (some x, rest) := by
  rw [readField, readColon_colon, Except.ok_bind, h layout _ rest (blank_gap layout) hrest]
  rfl

/-- A member that is written takes its place in the record. -/
theorem membersRead_field (put : Option α → σ) (h : ReadsBack value x write)
    (hmember : ∀ cs, member (put none) name cs =
      (readField value name none cs).map fun (x, rest) => (put x, rest)) :
    MembersRead member (put none) [(name, write)] (put (some x)) := by
  refine .cons (fun layout rest hrest => ?_) .nil
  rw [hmember, readField_written h layout hrest]
  rfl

/-- What is read of a member that may be left out. -/
def kept (skip : Bool) (x : α) : Option α := if skip then none else some x

theorem getD_kept {skip : Bool} {x default : α} (h : skip = true → x = default) :
    (kept skip x).getD default = x := by
  cases skip with
  | false => rfl
  | true => exact (h rfl).symm

/-- A member takes its place in the record unless it is left out. -/
theorem membersRead_kept (put : Option α → σ) (skip : Bool) (h : ReadsBack value x write)
    (hmember : ∀ cs, member (put none) name cs =
      (readField value name none cs).map fun (x, rest) => (put x, rest)) :
    MembersRead member (put none) (if skip then [] else [(name, write)]) (put (kept skip x)) := by
  cases skip with
  | false => exact membersRead_field put h hmember
  | true => exact .nil

end

theorem readsBack_readStrings (ss : List String) : ReadsBack readStrings ss (writeStrings ss) :=
  readsBack_strings ss

end Json

theorem Effect.ofName_name (e : Effect) : ofName e.name = .ok e := by
  cases e <;> rfl

theorem Effect.readsBack (e : Effect) : Json.ReadsBack read e (Json.writeString e.name) := by
  intro layout before rest hbefore _
  rw [read, Json.writeString, Json.stringText, Json.skipSpace_blank_cons hbefore (by decide)]
  -- The name is read from its quotation mark on, where no white space is left.
  simp only [readName, Json.skipSpace_cons (c := '"') (by decide), Json.readString_written,
    Except.ok_bind, ofName_name]

namespace Principal

/-- What is read of a written principal, list by list. -/
theorem membersRead (p : Principal) :
    Json.MembersRead readMember {}
      (write.member "IAM" p.iam ++ write.member "Service" p.service ++
        write.member "Federated" p.federated)
      ⟨Json.kept p.iam.isEmpty p.iam, Json.kept p.service.isEmpty p.service,
        Json.kept p.federated.isEmpty p.federated⟩ := by
  have hstrings := Json.readsBack_readStrings
  let iam := Json.kept p.iam.isEmpty p.iam
  let service := Json.kept p.service.isEmpty p.service
  have hiam : Json.MembersRead readMember {} (write.member "IAM" p.iam) ⟨iam, none, none⟩ :=
    Json.membersRead_kept (Partial.mk · none none) _ (hstrings p.iam) fun _ => rfl
  have hservice : Json.MembersRead readMember ⟨iam, none, none⟩
      (write.member "Service" p.service) ⟨iam, service, none⟩ :=
    Json.membersRead_kept (Partial.mk iam · none) _ (hstrings p.service) fun _ => rfl
  have hfederated : Json.MembersRead readMember ⟨iam, service, none⟩
      (write.member "Federated" p.federated) ⟨iam, service, _⟩ :=
    Json.membersRead_kept (Partial.mk iam service ·) _ (hstrings p.federated) fun _ => rfl
  exact (hiam.append hservice).append hfederated

/-- A written principal reads back. -/
theorem readsBack (p : Principal) : Json.ReadsBack read p (write p) := by
  intro layout before rest hbefore _
  obtain ⟨text, htext, hread⟩ := Json.readObjectBody_written p.membersRead layout
  have hlist : ∀ ss : List String, (Json.kept ss.isEmpty ss).getD [] = ss :=
    fun _ => Json.getD_kept List.isEmpty_iff.mp
  rw [write, htext, read, Json.skipSpace_blank_cons hbefore (by decide)]
  simp only [hread, Except.ok_bind, ofPartial, hlist]

/-- A principal that names nobody is the one that stands for a missing member. -/
theorem eq_default_of_isEmpty {p : Principal} (h : p.isEmpty = true) : p = {} := by
  obtain ⟨iam, service, federated⟩ := p
  simp only [isEmpty, Bool.and_eq_true, List.isEmpty_iff] at h
  obtain ⟨⟨rfl, rfl⟩, rfl⟩ := h
  rfl

end Principal

namespace PolicyStatement

theorem readsBack_version (v : String) :
    Json.ReadsBack readVersion (some v) (Json.writeString v) := by
  intro layout before rest hbefore hrest
  have hread : Json.readStringValue (Json.stringText v ++ rest) = .ok (v, rest) :=
    Json.readsBack_string v layout [] rest .nil hrest
  rw [readVersion, Json.writeString, Json.stringText,
    Json.skipSpace_blank_cons hbefore (by decide)]
  show (Json.readStringValue (Json.stringText v ++ rest)).map _ = _
  rw [hread]
  rfl

/-- What is read of a written statement, member by member. -/
theorem membersRead (s : PolicyStatement) :
    Json.MembersRead readMember {}
      ((s.version.elim [] fun v => [("version", Json.writeString v)]) ++
        [("effect", Json.writeString s.effect.name),
          ("resources", Json.writeStrings s.resources),
          ("actions", Json.writeStrings s.actions)] ++
        (if s.principal.isEmpty then [] else [("principal", s.principal.write)]) ++
        (if s.conditions.isEmpty then [] else [("conditions", Condition.write s.conditions)]))
      ⟨s.version.map some, some s.effect, some s.resources, some s.actions,
        Json.kept s.principal.isEmpty s.principal,
        Json.kept s.conditions.isEmpty s.conditions⟩ := by
  obtain ⟨version, effect, resources, actions, principal, conditions⟩ := s
  have hversion : Json.MembersRead readMember {}
      (version.elim [] fun v => [("version", Json.writeString v)])
      ⟨version.map some, none, none, none, none, none⟩ := by
    cases version with
    | none => exact .nil
    | some v =>
      exact Json.membersRead_field (Partial.mk · none none none none none)
        (readsBack_version v) fun _ => rfl
  generalize version.map some = version' at hversion ⊢
  -- Each member finds its place empty: those before it have filled no other than their own.
  have heffect : Json.MembersRead readMember ⟨version', none, none, none, none, none⟩
      [("effect", Json.writeString effect.name)] ⟨version', effect, none, none, none, none⟩ :=
    Json.membersRead_field (Partial.mk version' · none none none none) effect.readsBack
      fun _ => rfl
  have hresources : Json.MembersRead readMember ⟨version', effect, none, none, none, none⟩
      [("resources", Json.writeStrings resources)]
      ⟨version', effect, resources, none, none, none⟩ :=
    Json.membersRead_field (Partial.mk version' effect · none none none)
      (Json.readsBack_readStrings resources) fun _ => rfl
  have hactions : Json.MembersRead readMember ⟨version', effect, resources, none, none, none⟩
      [("actions", Json.writeStrings actions)]
      ⟨version', effect, resources, actions, none, none⟩ :=
    Json.membersRead_field (Partial.mk version' effect resources · none none)
      (Json.readsBack_readStrings actions) fun _ => rfl
  have hprincipal : Json.MembersRead readMember
      ⟨version', effect, resources, actions, none, none⟩
      (if principal.isEmpty then [] else [("principal", principal.write)])
      ⟨version', effect, resources, actions, Json.kept principal.isEmpty principal, none⟩ :=
    Json.membersRead_kept (Partial.mk version' effect resources actions · none) _
      principal.readsBack fun _ => rfl
  have hconditions : Json.MembersRead readMember
      ⟨version', effect, resources, actions, Json.kept principal.isEmpty principal, none⟩
      (if conditions.isEmpty then [] else [("conditions", Condition.write conditions)])
      ⟨version', effect, resources, actions, Json.kept principal.isEmpty principal, _⟩ :=
    Json.membersRead_kept (Partial.mk version' effect resources actions _ ·) _
      (Condition.readsBack conditions) fun _ => rfl
  have hlists := (heffect.append hresources).append hactions
  exact ((hversion.append hlists).append hprincipal).append hconditions

/-- A written statement reads back. -/
theorem readsBack (s : PolicyStatement) : Json.ReadsBack read s (write s) := by
  intro layout before rest hbefore _
  obtain ⟨text, htext, hread⟩ := Json.readObjectBody_written s.membersRead layout
  have hversion : (s.version.map some).getD none = s.version := by
    cases s.version <;> rfl
  have hprincipal : (Json.kept s.principal.isEmpty s.principal).getD {} = s.principal :=
    Json.getD_kept Principal.eq_default_of_isEmpty
  have hconditions : (Json.kept s.conditions.isEmpty s.conditions).getD .empty = s.conditions :=
    Json.getD_kept fun h => KeyMap.ext (List.isEmpty_iff.mp h)
  rw [write, htext, read, Json.skipSpace_blank_cons hbefore (by decide)]
  simp only [hread, Except.ok_bind, ofPartial, hversion, hprincipal, hconditions,
    Option.getD_some]

/-- The text of a statement holds the statement: whatever its strings hold and
whichever of its members are left out in writing, it comes back as it was. -/
theorem ofJson_toJson (s : PolicyStatement) : ofJson s.toJson = .ok s :=
  Json.readText_of_readsBack s.readsBack (.indented 0)

end PolicyStatement

end AccessDecision
