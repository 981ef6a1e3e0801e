import AccessDecision.Condition.Decision
import AccessDecision.Proofs.Condition.Meaning
import AccessDecision.Proofs.Json.Containers
import AccessDecision.Proofs.Json.NumberText
import AccessDecision.Proofs.KeyMap
import AccessDecision.Proofs.Network.Mapped

/-
  Values and their texts

  A comparator looks at a value in one of five ways: as a text, as an integer, as a
  truth value, as a timestamp and as an address. A scalar and the string that it is
  written as look the same in each of them: an integer reads back, a double never
  reads as an integer, and neither a number nor a truth value reads as a timestamp or
  as an address, which need colons or three points.

  What is proved:
    1. `alike_asText` — a scalar looks like its text.
    2. `accepts_of_alike` — what looks the same is accepted by the same comparators.
    3. `scalars_decide_as_texts` — so no verdict depends on whether a value comes as
       a scalar or as its text.
-/

namespace AccessDecision

/-! ## Texts without colons -/

theorem Time.Timestamp.colon_of_ofText? {text : String} {t : Timestamp}
    (h : ofText? text = some t) : ':' ∈ text.toList := by
  unfold ofText? at h
  split at h
  · rename_i htext
    simp [htext]
  · cases h

/-- A short address has three points. -/
theorem Network.points_of_octets? {g : Grammar} {cs : List Char} {os : List Nat}
    (h : octets? g cs = some os) : cs.count '.' = 3 := by
  have hcount := Text.length_fields '.' cs
  unfold octets? at h
  split at h
  · rename_i hfields
    rw [hfields] at hcount
    simpa using hcount.symm
  · cases h

/-- A text without a colon and with less than three points is no address. -/
theorem Network.Address.ofText?_eq_none {text : String} (hcolon : ':' ∉ text.toList)
    (hpoints : text.toList.count '.' ≤ 1) : ofText? text = none := by
  rw [Option.eq_none_iff_forall_ne_some]
  intro a ha
  rcases Option.or_eq_some_iff.mp ha with hshort | ⟨_, hlong⟩
  · obtain ⟨os, hos, _⟩ := Option.map_eq_some_iff.mp hshort
    have hthree := points_of_octets? hos
    omega
  · obtain ⟨gs, hgs, _⟩ := Option.map_eq_some_iff.mp hlong
    exact hcolon (colon_of_eightGroups? hgs)

namespace Condition

/-! ## Numbers as integers -/

theorem WritesInteger.chars {text : String} {n : Int} (h : WritesInteger text n) :
    ∀ c ∈ text.toList, c.isDigit = true ∨ c = '-' ∨ c = '+' := by
  obtain ⟨_, _, digits, m, hdigits, htext⟩ := h
  intro c hc
  rcases htext with ⟨htext, _⟩ | ⟨htext, _⟩ | ⟨htext, _⟩
  · rw [htext] at hc
    exact .inl (hdigits.isDigit.2 c hc)
  · rw [htext] at hc
    rcases List.mem_cons.mp hc with rfl | hc
    · exact .inr (.inr rfl)
    · exact .inl (hdigits.isDigit.2 c hc)
  · rw [htext] at hc
    rcases List.mem_cons.mp hc with rfl | hc
    · exact .inr (.inl rfl)
    · exact .inl (hdigits.isDigit.2 c hc)

/-- The text of an integer writes it, if it fits. -/
theorem writesInteger_integerText {k n : Int} (hk : -2 ^ 63 ≤ k) :
    WritesInteger (String.ofList (Json.Number.integerText k)) n ↔ k = n ∧ n < 2 ^ 63 := by
  -- Digits never start with a sign, so at most one of the three ways to write an
  -- integer fits, and its digits have one value.
  have hsign : ∀ {c : Char} {digits digits' : List Char} {m : Nat}, Text.WritesNat digits' m →
      c.isDigit = false → digits' ≠ c :: digits := by
    intro c digits digits' m h hc heq
    rw [h.isDigit.2 c (heq ▸ List.mem_cons_self)] at hc
    cases hc
  have hvalue : ∀ {digits : List Char} {m m' : Nat}, Text.WritesNat digits m →
      Text.WritesNat digits m' → m = m' := fun h h' => h.foldl_eq.symm.trans h'.foldl_eq
  simp only [WritesInteger, String.toList_ofList]
  cases k with
  | ofNat j =>
    have hj := Text.writesNat_toDigits j
    constructor
    · intro h
      obtain ⟨_, hlt, digits, m, hm, ⟨htext, rfl⟩ | ⟨htext, _⟩ | ⟨htext, _⟩⟩ := h
      · rw [← htext] at hm
        exact ⟨congrArg Int.ofNat (hvalue hj hm), hlt⟩
      · exact absurd htext (hsign hj rfl)
      · exact absurd htext (hsign hj rfl)
    · intro h
      obtain ⟨rfl, hlt⟩ := h
      exact ⟨hk, hlt, _, j, hj, .inl ⟨rfl, rfl⟩⟩
  | negSucc j =>
    have hj := Text.writesNat_toDigits (j + 1)
    constructor
    · intro h
      obtain ⟨_, hlt, digits, m, hm, ⟨htext, _⟩ | ⟨htext, _⟩ | ⟨htext, rfl⟩⟩ := h
      · exact absurd htext.symm (hsign hm rfl)
      · cases htext
      · obtain rfl := (List.cons.inj htext).2
        have hm' := hvalue hj hm
        exact ⟨by omega, hlt⟩
    · intro h
      obtain ⟨rfl, hlt⟩ := h
      exact ⟨hk, hlt, _, j + 1, hj, .inr (.inr ⟨rfl, rfl⟩)⟩

/-- A double is not written as an integer. -/
theorem not_writesInteger_double (negative : Bool) (size : Decimal.Binary64) (n : Int) :
    ¬ WritesInteger (String.ofList (Json.Number.double negative size).text) n := by
  intro h
  have hchars := h.chars
  rw [String.toList_ofList] at hchars
  rcases Json.mark_mem_text_double negative size with hmark | hmark
  · exact absurd (hchars '.' hmark) (by decide)
  · exact absurd (hchars 'e' hmark) (by decide)

/-! ## How a scalar and its text look -/

/-- Two values look the same, however a comparator looks at them. -/
structure Alike (x y : Value) : Prop where
  text : x.asText = y.asText
  integer : asInteger? x = asInteger? y
  bool : asBool? x = asBool? y
  timestamp : x.asString?.bind Time.Timestamp.ofText? = y.asString?.bind Time.Timestamp.ofText?
  address : Comparator.addressOf? x = Comparator.addressOf? y

/-- What looks the same is accepted by the same comparators. -/
theorem accepts_of_alike {x y : Value} (h : Alike x y) (c : Comparator) :
    c.accepts x = c.accepts y := by
  cases c with
  | string r values => rw [Comparator.accepts, Comparator.accepts, h.text]
  | numeric r values => rw [Comparator.accepts, Comparator.accepts, h.integer]
  | date r values => rw [Comparator.accepts, Comparator.accepts, h.timestamp]
  | bool values => rw [Comparator.accepts, Comparator.accepts, h.bool]
  | ip negated values => rw [Comparator.accepts, Comparator.accepts, h.address]

/-- A scalar that is no string is written without a colon and with at most one point. -/
theorem asText_chars {x : Value} (hx : x.asString? = none) :
    ':' ∉ x.asText.toList ∧ x.asText.toList.count '.' ≤ 1 := by
  match x with
  | .boolean true => exact ⟨by decide, by decide⟩
  | .boolean false => exact ⟨by decide, by decide⟩
  | .number n =>
    rw [Json.Scalar.asText, String.toList_ofList]
    refine ⟨fun hcolon => ?_, Json.count_point_text n⟩
    exact absurd (Json.mem_text ':' hcolon) (by decide)

theorem asInteger?_asText {x : Value} (hx : x.Readable) :
    asInteger? (.string x.asText) = asInteger? x := by
  match x with
  | .string s => rfl
  | .boolean true => decide
  | .boolean false => decide
  | .number (.integer k) =>
    apply Option.ext
    intro n
    rw [asInteger?_eq_some, asInteger?_eq_some]
    exact writesInteger_integerText hx.1
  | .number (.double negative size) =>
    have hnone := not_writesInteger_double negative size
    show integerOfText? _ = none
    rw [Option.eq_none_iff_forall_ne_some]
    intro n hn
    exact hnone n (integerOfText?_eq_some.mp hn)

theorem asBool?_asText (x : Value) : asBool? (.string x.asText) = asBool? x := by
  match x with
  | .string s => rfl
  | .boolean true => rfl
  | .boolean false => rfl
  | .number n =>
    show boolOfText? (String.ofList n.text) = none
    rw [Option.eq_none_iff_forall_ne_some]
    intro b hb
    -- Both truth values are written with a letter that no number has.
    have htext : n.text = (if b then "true" else "false").toList := by
      rw [← boolOfText?_eq_some.mp hb, String.toList_ofList]
    cases b with
    | true =>
      have hletter : 't' ∈ n.text := by
        rw [htext]
        decide
      exact absurd (Json.mem_text 't' hletter) (by decide)
    | false =>
      have hletter : 'f' ∈ n.text := by
        rw [htext]
        decide
      exact absurd (Json.mem_text 'f' hletter) (by decide)

/-- A scalar looks like the string that it is written as. -/
theorem alike_asText {x : Value} (hx : x.Readable) : Alike (.string x.asText) x := by
  refine ⟨rfl, asInteger?_asText hx, asBool?_asText x, ?_, ?_⟩
  · cases hstring : x.asString? with
    | some s =>
      rw [asString?_eq_some.mp hstring]
      rfl
    | none =>
      show Time.Timestamp.ofText? x.asText = none
      rw [Option.eq_none_iff_forall_ne_some]
      intro t ht
      exact (asText_chars hstring).1 (Time.Timestamp.colon_of_ofText? ht)
  · cases hstring : x.asString? with
    | some s =>
      rw [asString?_eq_some.mp hstring]
      rfl
    | none =>
      obtain ⟨hcolon, hpoints⟩ := asText_chars hstring
      have haddress := Network.Address.ofText?_eq_none hcolon hpoints
      rw [Comparator.addressOf?, Comparator.addressOf?, hstring]
      simp [Json.Scalar.asString?, haddress]

/-! ## Contexts with the same texts -/

/-- Every value of a context that is read is readable. -/
theorem readable_of_parseContext {text : String} {context : Context}
    (h : parseContext text = .ok context) {key : String} {x : Value}
    (hx : context.get? key = some x) : x.Readable := by
  have htext : Context.ofText text = .ok context := by
    unfold parseContext at h
    cases hread : Context.ofText text with
    | error e =>
      rw [hread] at h
      cases h
    | ok c =>
      rw [hread] at h
      cases h
      rfl
  obtain ⟨⟨read, rest⟩, hread, hend⟩ := Except.bind_eq_ok.mp htext
  obtain ⟨_, hok⟩ := Except.ite_else_error_eq_ok.mp hend
  cases hok
  obtain ⟨⟨members, rest'⟩, hmembers, heq⟩ := Except.map_eq_ok.mp hread
  cases heq
  -- Of a repeated key the last value is kept, which is one of those that were read.
  have hlasting : (key, x) ∈ KeyMap.lasting members := KeyMap.get?_ofList.mp hx
  exact Json.readObject_forall (fun hvalue => Json.readScalar_readable hvalue) hmembers _
    (KeyMap.mem_of_mem_lasting hlasting)

/-- Readable values that are written alike are accepted alike. -/
theorem accepts_of_asText_eq {x y : Value} (hx : x.Readable) (hy : y.Readable)
    (htext : x.asText = y.asText) (c : Comparator) : c.accepts x = c.accepts y := by
  calc c.accepts x = c.accepts (.string x.asText) := (accepts_of_alike (alike_asText hx) c).symm
    _ = c.accepts (.string y.asText) := by rw [htext]
    _ = c.accepts y := accepts_of_alike (alike_asText hy) c

/-- Contexts with the same texts under the same keys satisfy the same conditions. -/
theorem evaluate_of_texts_eq {context context' : Context}
    (hread : ∀ {key x}, context.get? key = some x → x.Readable)
    (hread' : ∀ {key x}, context'.get? key = some x → x.Readable)
    (htexts : ∀ key, (context.get? key).map Json.Scalar.asText =
      (context'.get? key).map Json.Scalar.asText) (s : ConditionSet) :
    s.evaluate context = s.evaluate context' := by
  have hcheck : ∀ check : Check, check.holds context = check.holds context' := by
    intro check
    have htext := htexts check.key
    rw [Check.holds, Check.holds]
    cases hx : context.get? check.key with
    | none =>
      rw [hx, Option.map_none, eq_comm, Option.map_eq_none_iff] at htext
      rw [htext]
    | some x =>
      rw [hx, Option.map_some, eq_comm, Option.map_eq_some_iff] at htext
      obtain ⟨y, hy, htext⟩ := htext
      rw [hy]
      exact accepts_of_asText_eq (hread hx) (hread' hy) htext.symm check.comparator
  have hblock : ∀ block : Block, block.holds context = block.holds context' := by
    intro block
    cases block with
    | unknown name => rfl
    | known op checks => simp only [Block.holds, hcheck]
  simp only [ConditionSet.evaluate, hblock]

end Condition

/-- No operator tells a scalar from the string that it is written as. So two context
documents in which every key has the same text, as a string or as a scalar, are
decided alike under every condition. -/
theorem scalars_decide_as_texts :
    (∀ (op : Condition.Operator) (texts : List String) (x : Condition.Value), x.Readable →
      (op.comparator texts).accepts (.string x.asText) = (op.comparator texts).accepts x) ∧
    ∀ (text text' : String) (context context' : Context), parseContext text = .ok context →
      parseContext text' = .ok context' →
      (∀ key, (context.get? key).map Json.Scalar.asText =
        (context'.get? key).map Json.Scalar.asText) →
      ∀ condition, evaluateConditions text condition = evaluateConditions text' condition := by
  refine ⟨fun op texts x hx => ?_, ?_⟩
  · exact Condition.accepts_of_alike (Condition.alike_asText hx) (op.comparator texts)
  · intro text text' context context' htext htext' htexts condition
    rw [evaluateConditions, evaluateConditions]
    cases parseCondition condition with
    | error e => rfl
    | ok c =>
      simp only [htext, htext']
      rw [Condition.evaluate_of_texts_eq (Condition.readable_of_parseContext htext)
        (Condition.readable_of_parseContext htext') htexts]

/-- A context with a scalar of each kind. -/
def scalarContext : Context :=
  ⟨[("active", .boolean true), ("count", .number (.integer (-9223372036854775808))),
    ("name", .string "1.5"), ("rate", .number (.double true ⟨6755399441055744, -52⟩))], by decide⟩

/-- The same context in strings. -/
def textContext : Context :=
  ⟨[("active", .string "true"), ("count", .string "-9223372036854775808"),
    ("name", .string "1.5"), ("rate", .string "-1.5")], by decide⟩

theorem scalar_documents_decide :
    let text := String.ofList (Context.write scalarContext .compact)
    let text' := String.ofList (Context.write textContext .compact)
    (parseContext text = .ok scalarContext ∧ parseContext text' = .ok textContext ∧
      ∀ condition, evaluateConditions text condition = evaluateConditions text' condition) ∧
    Json.Scalar.Readable (.number (.integer 5)) ∧
      (Condition.Operator.numericEquals.comparator ["5"]).accepts (.string "5") = true := by
  intro text text'
  have htext : parseContext text = .ok scalarContext := by decide +kernel
  have htext' : parseContext text' = .ok textContext := by decide +kernel
  have hmap : scalarContext.map Json.Scalar.asText = textContext.map Json.Scalar.asText := by
    decide +kernel
  have htexts : ∀ key, (scalarContext.get? key).map Json.Scalar.asText =
      (textContext.get? key).map Json.Scalar.asText := by
    intro key
    rw [← KeyMap.get?_map, hmap, KeyMap.get?_map]
  have hfive : Json.Scalar.Readable (.number (.integer 5)) := by
    simp [Json.Scalar.Readable, Json.Number.Readable]
  refine ⟨⟨htext, htext', ?_⟩, hfive, ?_⟩
  · exact scalars_decide_as_texts.2 text text' _ _ htext htext' htexts
  · exact scalars_decide_as_texts.1 .numericEquals ["5"] (.number (.integer 5)) hfive

end AccessDecision
