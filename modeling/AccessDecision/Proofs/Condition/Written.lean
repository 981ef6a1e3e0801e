import AccessDecision.Condition.Decision
import AccessDecision.Proofs.Condition.Evaluation
import AccessDecision.Proofs.Json.Containers

/-
  Conditions by what their texts write

  A condition text is a JSON object of objects of lists of strings, and its members
  are read in the order they stand in, repetitions included
  (`Condition.WritesMembers`). The map they are put into keeps one member of a name,
  so the verdict is that of the members which last.

  What is proved:
    1. `ofText_eq_ok` — a condition text decodes exactly if it writes some members,
       and then to the map of them.
    2. `verdict_of_members` — a context satisfies a condition text exactly if every
       member holds whose name does not occur again, and in it every attribute
       whose name does not. Where no name repeats, these are all members.
    3. `repeated_operator_is_dropped` — where a name does repeat, the earlier member
       decides nothing.
-/

namespace AccessDecision.Condition

/-- The members that a text writes: operators with attributes with acceptable
values, each as often as it stands there. -/
def WritesMembers (text : String) (w : Written) : Prop :=
  Json.DocumentText (Json.ObjectText (Json.ObjectText (Json.ListText Json.StringText))) w
    text.toList

namespace Written

/-- What a written member says of a context: its name is that of an operator, and
every attribute entry in it is satisfied by one of its acceptable values. -/
def MemberHolds (context : Context) (member : String × List (String × List String)) : Prop :=
  ∃ op : Operator, op.name = member.1 ∧ ∀ entry ∈ member.2,
    ∃ x, context.get? entry.1 = some x ∧ ∃ v ∈ entry.2, op.Holds x v

/-- Every member holds. -/
def Holds (w : Written) (context : Context) : Prop := ∀ member ∈ w, MemberHolds context member

/-- The members, and in each the entries, whose names do not occur again behind
them. -/
def lasting (w : Written) : Written :=
  (KeyMap.lasting w).map fun member => (member.1, KeyMap.lasting member.2)

/-- No operator is written twice, and under none of them an attribute. -/
def NamesOnce (w : Written) : Prop :=
  (w.map (·.1)).Nodup ∧ ∀ member ∈ w, (member.2.map (·.1)).Nodup

theorem lasting_of_namesOnce {w : Written} (h : w.NamesOnce) : w.lasting = w := by
  have hmember : ∀ member ∈ w, (member.1, KeyMap.lasting member.2) = member := fun member hm =>
    Prod.ext rfl (KeyMap.lasting_of_nodup (h.2 member hm))
  calc w.lasting
      = w.map fun member => (member.1, KeyMap.lasting member.2) := by
        rw [lasting, KeyMap.lasting_of_nodup h.1]
    _ = w := (List.map_congr_left hmember).trans w.map_id

end Written

/-! ## Texts and members -/

theorem exact_readWritten : Json.Exact readWritten
    (Json.ObjectText (Json.ObjectText (Json.ListText Json.StringText))) :=
  Json.exact_readObject (Json.exact_readObject
    (Json.exact_readList Json.exact_readStringValue Json.delimited_stringText).within).within

/-- The members of a text are read exactly as it writes them. -/
theorem writtenOfText_eq_ok {text : String} {w : Written} :
    writtenOfText text = .ok w ↔ WritesMembers text w :=
  Json.readText_eq_ok exact_readWritten

/-- Reading a text into a map is reading its members and putting them into one. -/
theorem ofText_eq_map (text : String) : ofText text = (writtenOfText text).map ofWritten :=
  Json.readText_map readWritten ofWritten text

theorem ofText_eq_ok {text : String} {c : Condition} :
    ofText text = .ok c ↔ ∃ w, WritesMembers text w ∧ ofWritten w = c := by
  simp only [ofText_eq_map, Except.map_eq_ok, writtenOfText_eq_ok]

/-! ## Members and verdicts -/

/-- The map that members come to holds exactly if the lasting ones do. -/
theorem holds_ofWritten {w : Written} {context : Context} :
    (ofWritten w).Holds context ↔ w.lasting.Holds context := by
  -- A block of the map is the map of a lasting member, and its entries are the
  -- lasting entries of that member.
  have hblock : ∀ name attributes, (ofWritten w).get? name = some attributes ↔
      ∃ entries, (name, entries) ∈ KeyMap.lasting w ∧ KeyMap.ofList entries = attributes := by
    intro name attributes
    rw [ofWritten, KeyMap.get?_ofList, KeyMap.lasting_map KeyMap.ofList]
    simp
  constructor
  · intro h member hmember
    obtain ⟨⟨name, entries⟩, hlasting, rfl⟩ := List.mem_map.mp hmember
    obtain ⟨op, hop, hentries⟩ := h name _ ((hblock _ _).mpr ⟨entries, hlasting, rfl⟩)
    refine ⟨op, hop, fun entry hentry => ?_⟩
    exact hentries entry.1 entry.2 (KeyMap.get?_ofList.mpr hentry)
  · intro h name attributes hattributes
    obtain ⟨entries, hlasting, rfl⟩ := (hblock _ _).mp hattributes
    obtain ⟨op, hop, hentries⟩ := h _ (List.mem_map.mpr ⟨_, hlasting, rfl⟩)
    refine ⟨op, hop, fun key texts htexts => ?_⟩
    exact hentries (key, texts) (KeyMap.get?_ofList.mp htexts)

theorem evaluateConditions_eq_true {context condition : String} :
    evaluateConditions context condition = .ok true ↔
      ∃ c ctx, ofText condition = .ok c ∧ Context.ofText context = .ok ctx ∧ c.Holds ctx := by
  rw [evaluateConditions, parseCondition, parseContext]
  cases ofText condition with
  | error e => exact ⟨nofun, nofun⟩
  | ok c =>
    cases Context.ofText context with
    | error e => exact ⟨nofun, nofun⟩
    | ok ctx =>
      show Except.ok ((ConditionSet.ofCondition c).evaluate ctx) = Except.ok true ↔ _
      rw [Except.ok.injEq, ConditionSet.evaluate, List.all_eq_true, blocks_hold]
      simp

/-- A context satisfies a condition text exactly if it decodes and the lasting
members of the text hold of it. Where no name repeats, all members do. -/
theorem verdict_of_members (context condition : String) :
    (evaluateConditions context condition = .ok true ↔
      ∃ w ctx, WritesMembers condition w ∧ Context.ofText context = .ok ctx ∧
        w.lasting.Holds ctx) ∧
    ∀ w, WritesMembers condition w → w.NamesOnce →
      (evaluateConditions context condition = .ok true ↔
        ∃ ctx, Context.ofText context = .ok ctx ∧ w.Holds ctx) := by
  have hverdict : evaluateConditions context condition = .ok true ↔
      ∃ w ctx, WritesMembers condition w ∧ Context.ofText context = .ok ctx ∧
        w.lasting.Holds ctx := by
    rw [evaluateConditions_eq_true]
    constructor
    · intro h
      obtain ⟨c, ctx, hc, hctx, hholds⟩ := h
      obtain ⟨w, hw, rfl⟩ := ofText_eq_ok.mp hc
      exact ⟨w, ctx, hw, hctx, holds_ofWritten.mp hholds⟩
    · intro h
      obtain ⟨w, ctx, hw, hctx, hholds⟩ := h
      exact ⟨_, ctx, ofText_eq_ok.mpr ⟨w, hw, rfl⟩, hctx, holds_ofWritten.mpr hholds⟩
  refine ⟨hverdict, fun w hw honce => hverdict.trans ?_⟩
  have hread := writtenOfText_eq_ok.mpr hw
  constructor
  · intro h
    obtain ⟨w', ctx, hw', hctx, hholds⟩ := h
    obtain rfl : w' = w := Except.ok.inj ((writtenOfText_eq_ok.mpr hw').symm.trans hread)
    exact ⟨ctx, hctx, Written.lasting_of_namesOnce honce ▸ hholds⟩
  · intro h
    obtain ⟨ctx, hctx, hholds⟩ := h
    exact ⟨w, ctx, hw, hctx, (Written.lasting_of_namesOnce honce).symm ▸ hholds⟩

/-- Two operators and two attributes, each written once: what the text writes is what
is decided. -/
theorem distinct_members_all_count :
    let condition := "\x7b\"StringEquals\":\x7b\"k\":[\"a\"]\x7d," ++
      "\"Bool\":\x7b\"b\":[\"true\"]\x7d\x7d"
    let w : Written := [("StringEquals", [("k", ["a"])]), ("Bool", [("b", ["true"])])]
    WritesMembers condition w ∧ w.NamesOnce ∧
      (evaluateConditions "\x7b\"k\":\"a\",\"b\":true\x7d" condition = .ok true ↔
        ∃ ctx, Context.ofText "\x7b\"k\":\"a\",\"b\":true\x7d" = .ok ctx ∧ w.Holds ctx) := by
  intro condition w
  have hwrites : WritesMembers condition w := writtenOfText_eq_ok.mp (by decide +kernel)
  have honce : w.NamesOnce := ⟨by decide, by decide⟩
  exact ⟨hwrites, honce, (verdict_of_members _ condition).2 w hwrites honce⟩

/-- Of an operator that is written twice, the earlier constraints are not looked at:
`k` is to be `a` and to be `b`, and a request with `b` is granted. -/
theorem repeated_operator_is_dropped :
    let condition := "\x7b\"StringEquals\":\x7b\"k\":[\"a\"]\x7d," ++
      "\"StringEquals\":\x7b\"k\":[\"b\"]\x7d\x7d"
    let w : Written := [("StringEquals", [("k", ["a"])]), ("StringEquals", [("k", ["b"])])]
    WritesMembers condition w ∧
      evaluateConditions "\x7b\"k\":\"b\"\x7d" condition = .ok true ∧
      ∃ ctx, Context.ofText "\x7b\"k\":\"b\"\x7d" = .ok ctx ∧ ¬ w.Holds ctx := by
  intro condition w
  have hwrites : WritesMembers condition w := writtenOfText_eq_ok.mp (by decide +kernel)
  have hread : Context.ofText "\x7b\"k\":\"b\"\x7d" =
      .ok (KeyMap.ofList [("k", .string "b")]) := by
    decide +kernel
  refine ⟨hwrites, by decide +kernel, _, hread, fun hholds => ?_⟩
  obtain ⟨op, hop, hentries⟩ := hholds ("StringEquals", [("k", ["a"])]) List.mem_cons_self
  obtain ⟨x, hx, v, hv, hop'⟩ := hentries ("k", ["a"]) List.mem_cons_self
  obtain rfl : op = .stringEquals := by cases op <;> simp_all [Operator.name]
  obtain rfl : v = "a" := List.mem_singleton.mp hv
  have hb : (KeyMap.ofList [("k", Json.Scalar.string "b")]).get? "k" = some (.string "b") := by
    decide
  obtain rfl : x = .string "b" := Option.some.inj (hx.symm.trans hb)
  have htext : "b" = "a" := hop'
  exact absurd htext (by decide)

end AccessDecision.Condition
