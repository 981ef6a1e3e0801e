import AccessDecision.Condition.Decision
import AccessDecision.Proofs.Json.RoundTrip
import AccessDecision.Proofs.KeyMap

/-
  Conditions and contexts through their texts

  A condition or a context that is written out and read again is the one it was,
  whatever its names and strings hold and in whatever order the members of the
  context stand. So deciding on the texts is deciding on the values.

  Doubles are left out: whether the shortest text of a double reads back as it is a
  question of the arithmetic of doubles, and nothing here depends on it.

  What is proved:
    1. `Condition.readsBack` and `Context.readsBack` — a written condition reads
       back, and so does a written context whose numbers are integers.
    2. `written_documents_decide` — the texts decode to the values, and the decision
       on the texts is that on the values.
-/

namespace AccessDecision

theorem Condition.ofWritten_entries (c : Condition) :
    ofWritten (c.entries.map fun block => (block.1, block.2.entries)) = c := by
  have hblock (attributes : KeyMap (List String)) :
      KeyMap.ofList attributes.entries = attributes := KeyMap.ofList_of_perm (.refl _)
  have hentries : (c.entries.map fun block => (block.1, block.2.entries)).map
      (fun block => (block.1, KeyMap.ofList block.2)) = c.entries := by
    simp only [List.map_map, Function.comp_def, hblock, List.map_id']
  rw [ofWritten, hentries]
  exact KeyMap.ofList_of_perm (.refl _)

/-- The members of an operator block, written. -/
def Condition.writeBlock (attributes : List (String × List String)) : Json.Writer :=
  Json.writeObject (attributes.map fun e => (e.1, Json.writeList (e.2.map Json.writeString)))

theorem Condition.readsBack_writeBlock (attributes : List (String × List String)) :
    Json.ReadsBack (Json.readObject (Json.readList Json.readStringValue)) attributes
      (writeBlock attributes) :=
  Json.readsBack_object (fun ss => Json.writeList (ss.map Json.writeString))
    fun e _ => Json.readsBack_strings e.2

/-- A written condition reads back. -/
theorem Condition.readsBack (c : Condition) : Json.ReadsBack read c (write c) := by
  have hwritten : Json.ReadsBack readWritten
      (c.entries.map fun block => (block.1, block.2.entries)) (write c) := by
    have hobject : ∀ w : Written, Json.ReadsBack readWritten w
        (Json.writeObject (w.map fun block => (block.1, writeBlock block.2))) :=
      fun w => Json.readsBack_object writeBlock fun block _ => readsBack_writeBlock block.2
    have hentries := hobject (c.entries.map fun block => (block.1, block.2.entries))
    rwa [List.map_map] at hentries
  have hread := hwritten.map ofWritten
  rwa [ofWritten_entries] at hread

/-- A written context reads back, in whatever order its members stand, if its numbers
are integers. -/
theorem Context.readsBack {context : Context} {members : List (String × Condition.Value)}
    (hmembers : members.Perm context.entries) (hintegral : ∀ e ∈ context.entries, e.2.Integral) :
    Json.ReadsBack read context
      (Json.writeObject (members.map fun e => (e.1, Json.writeScalar e.2))) := by
  have hread := Json.readsBack_object Json.writeScalar
    fun e he => Json.readsBack_scalar (hintegral e (hmembers.mem_iff.mp he)) valueLevels
  have hcontext := hread.map KeyMap.ofList
  rwa [KeyMap.ofList_of_perm hmembers] at hcontext

/-- A condition and a context come out of their texts as they went in, in any layout
and with the members of the context in any order, and the decision on the texts is
the one on the values. -/
theorem written_documents_decide (c : Condition) (context : Context)
    (members : List (String × Condition.Value)) (hmembers : members.Perm context.entries)
    (hintegral : ∀ e ∈ context.entries, e.2.Integral) (layout layout' : Json.Layout) :
    let conditionText := String.ofList (Condition.write c layout)
    let contextText := String.ofList
      (Json.writeObject (members.map fun e => (e.1, Json.writeScalar e.2)) layout')
    parseCondition conditionText = .ok c ∧ parseContext contextText = .ok context ∧
      evaluateConditions contextText conditionText =
        .ok ((ConditionSet.ofCondition c).evaluate context) := by
  intro conditionText contextText
  have hcondition : parseCondition conditionText = .ok c := by
    rw [parseCondition, Condition.ofText, Json.readText_of_readsBack c.readsBack]
    rfl
  have hcontext : parseContext contextText = .ok context := by
    rw [parseContext, Context.ofText,
      Json.readText_of_readsBack (Context.readsBack hmembers hintegral)]
    rfl
  refine ⟨hcondition, hcontext, ?_⟩
  rw [evaluateConditions, hcondition, hcontext]

/-- A context with what a writer could confuse: a quotation mark in a name, the least
and the greatest number, a truth value next to its name, and characters that have to be
escaped. -/
def awkwardContext : Context :=
  ⟨[("a\"b", .number (.integer (-2 ^ 63))), ("b", .boolean true),
    ("c", .number (.integer (2 ^ 64 - 1))), ("d", .string "true"), ("𝄞", .string "\x00\\\n\"😀")],
    by decide⟩

/-- A condition on it: each block holds, a block without attributes among them. -/
def awkwardCondition : Condition :=
  ⟨[("Bool", ⟨[], .nil⟩), ("NumericEquals", ⟨[("a\"b", ["0", "-9223372036854775808"])], by decide⟩),
    ("StringEquals", ⟨[("𝄞", ["\x00\\\n\"😀"])], by decide⟩)], by decide⟩

theorem awkward_documents_decide :
    (awkwardContext.entries.reverse.Perm awkwardContext.entries ∧
      ∀ e ∈ awkwardContext.entries, e.2.Integral) ∧
    evaluateConditions
      (String.ofList (Json.writeObject
        (awkwardContext.entries.reverse.map fun e => (e.1, Json.writeScalar e.2)) (.indented 0)))
      (String.ofList (Condition.write awkwardCondition .compact)) = .ok true := by
  have hintegral : ∀ e ∈ awkwardContext.entries, e.2.Integral := by
    simp [awkwardContext, Json.Scalar.Integral, Json.Number.Integral]
  have hmembers := List.reverse_perm awkwardContext.entries
  have hdecides : (ConditionSet.ofCondition awkwardCondition).evaluate awkwardContext = true := by
    decide +kernel
  have hread := (written_documents_decide awkwardCondition awkwardContext _ hmembers hintegral
    .compact (.indented 0)).2.2
  exact ⟨⟨hmembers, hintegral⟩, hread.trans (congrArg Except.ok hdecides)⟩

end AccessDecision
