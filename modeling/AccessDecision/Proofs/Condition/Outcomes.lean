import AccessDecision.Proofs.Condition.Written
import AccessDecision.Proofs.Json.NumberRange
import AccessDecision.Proofs.Json.NumberReading

/-
  Which texts are decided

  A condition and a context that decode are always decided, one way or the other: that
  an operator is not known or a value makes no sense is never an error. A condition
  that does not decode is reported whatever the context is, and a context only behind a
  condition that does.

  What is proved:
    1. `Context.ofText_eq_ok` — a context text decodes exactly if it writes an object of
       scalars, with its numbers in range.
    2. `outcome_of_texts` — the texts alone say which of the three outcomes there is,
       and numbers are in range up to four units of the last place below `2 ^ 1024` and
       out of it from four units above.
    3. `range_ends_early_and_late` — in between, size does not decide: a number below
       the greatest double is refused, and one beyond `2 ^ 1024` is taken.
-/

namespace AccessDecision

open Decimal.Binary64 (topUnit greatest)

namespace Context

/-- The members that a text writes: attributes with scalars, each as often as it stands
there. -/
def WritesMembers (text : String) (members : List (String × Condition.Value)) : Prop :=
  Json.DocumentText (Json.ObjectText Json.ScalarText) members text.toList

theorem exact_readWritten : Json.Exact readWritten (Json.ObjectText Json.ScalarText) :=
  Json.exact_readObject (Json.exact_readScalar valueLevels)

/-- A text holds the context of the members that it writes. -/
theorem ofText_eq_ok {text : String} {context : Context} :
    ofText text = .ok context ↔
      ∃ members, WritesMembers text members ∧ KeyMap.ofList members = context := by
  have hmap : ofText text = (Json.readText readWritten text).map KeyMap.ofList :=
    Json.readText_map readWritten KeyMap.ofList text
  simp only [hmap, Except.map_eq_ok, Json.readText_eq_ok exact_readWritten, WritesMembers]

end Context

/-! ## Outcomes -/

section
variable {context condition : String}

/-- A condition that does not decode is reported whatever the context is. -/
theorem evaluateConditions_of_condition_error {fault : Json.Fault}
    (h : Condition.ofText condition = .error fault) :
    evaluateConditions context condition = .error (.invalidCondition fault) := by
  rw [evaluateConditions, parseCondition, h]
  rfl

theorem evaluateConditions_of_context_error {c : Condition} {fault : Json.Fault}
    (hc : Condition.ofText condition = .ok c) (h : Context.ofText context = .error fault) :
    evaluateConditions context condition = .error (.invalidContext fault) := by
  rw [evaluateConditions, parseCondition, parseContext, hc, h]
  rfl

/-- What decodes is decided. -/
theorem evaluateConditions_of_ok {c : Condition} {ctx : Context}
    (hc : Condition.ofText condition = .ok c) (hctx : Context.ofText context = .ok ctx) :
    evaluateConditions context condition =
      .ok ((ConditionSet.ofCondition c).evaluate ctx) := by
  rw [evaluateConditions, parseCondition, parseContext, hc, hctx]
  rfl

/-- There are three outcomes, and which there is depends only on what decodes. -/
theorem outcome_of_decoding (context condition : String) :
    ((∃ fault, evaluateConditions context condition = .error (.invalidCondition fault)) ↔
      ¬ ∃ c, Condition.ofText condition = .ok c) ∧
    ((∃ fault, evaluateConditions context condition = .error (.invalidContext fault)) ↔
      (∃ c, Condition.ofText condition = .ok c) ∧ ¬ ∃ ctx, Context.ofText context = .ok ctx) ∧
    ((∃ verdict, evaluateConditions context condition = .ok verdict) ↔
      (∃ c, Condition.ofText condition = .ok c) ∧ ∃ ctx, Context.ofText context = .ok ctx) := by
  cases hc : Condition.ofText condition with
  | error fault => simp [evaluateConditions_of_condition_error hc]
  | ok c =>
    cases hctx : Context.ofText context with
    | error fault => simp [evaluateConditions_of_context_error hc hctx]
    | ok ctx => simp [evaluateConditions_of_ok hc hctx]

end

/-- A condition text that is no object of objects of lists of strings is invalid,
whatever the context. With one that is, a context text is invalid if it is no object of
scalars with its numbers in range. All else is decided. Size tells of a number that it is
in range, or that it is not, but for eight units of the last place around `2 ^ 1024`. -/
theorem outcome_of_texts (context condition : String) :
    ((∃ fault, evaluateConditions context condition = .error (.invalidCondition fault)) ↔
      ¬ ∃ w, Condition.WritesMembers condition w) ∧
    ((∃ fault, evaluateConditions context condition = .error (.invalidContext fault)) ↔
      (∃ w, Condition.WritesMembers condition w) ∧
        ¬ ∃ members, Context.WritesMembers context members) ∧
    ((∃ verdict, evaluateConditions context condition = .ok verdict) ↔
      (∃ w, Condition.WritesMembers condition w) ∧
        ∃ members, Context.WritesMembers context members) ∧
    ∀ n t, Json.NumeralText n t → t.length ≤ 2 ^ 30 →
      (n.size ≤ (2 ^ 53 - 4) * topUnit → ∃ x, Json.ScalarText (.number x) t) ∧
      ((2 ^ 53 + 4) * topUnit ≤ n.size → ¬ ∃ x, Json.ScalarText x t) := by
  have hcondition : (∃ c, Condition.ofText condition = .ok c) ↔
      ∃ w, Condition.WritesMembers condition w := by
    simp [Condition.ofText_eq_ok]
  have hcontext : (∃ ctx, Context.ofText context = .ok ctx) ↔
      ∃ members, Context.WritesMembers context members := by
    simp [Context.ofText_eq_ok]
  rw [← hcondition, ← hcontext]
  obtain ⟨hinvalid, hinvalid', hok⟩ := outcome_of_decoding context condition
  refine ⟨hinvalid, hinvalid', hok, fun n t hn hlength => ⟨fun hsize => ?_, fun hsize => ?_⟩⟩
  · obtain ⟨x, hx⟩ := Json.number_of_size_le hn hlength hsize
    exact ⟨x, .number hn hx⟩
  · rintro ⟨x, hx⟩
    obtain ⟨y, hy, _⟩ := (Json.scalarText_numeral hn).mp hx
    rw [Json.number_of_le_size hn hlength hsize] at hy
    cases hy

/-- An object of one member, written without blanks. -/
theorem Json.writes_member {α : Type} {P : α → List Char → Prop} {x : α} {t text : List Char}
    (key : String) (h : P x t)
    (htext : text = '\x7b' :: (stringText key ++ ':' :: (t ++ ['\x7d']))) :
    DocumentText (ObjectText P) [(key, x)] text :=
  ⟨[], _, [], .nil, .cons .nil ⟨_, [], [], _, stringText_written key, .nil, .nil, h, rfl⟩ .nil .nil,
    .nil, by simp [htext]⟩

/-- Two digits are enough to write a number in range and one out of it. -/
theorem numbers_near_the_limit_decide :
    let below : Json.Numeral := ⟨false, ['1'], ['7'], some ⟨true, ['3', '0', '8']⟩⟩
    let above : Json.Numeral := ⟨false, ['1'], ['8'], some ⟨true, ['3', '0', '8']⟩⟩
    (below.size ≤ (2 ^ 53 - 4) * topUnit ∧ ∃ x, Json.ScalarText (.number x) "1.7e308".toList) ∧
    ((2 ^ 53 + 4) * topUnit ≤ above.size ∧ ¬ ∃ x, Json.ScalarText x "1.8e308".toList) ∧
    ∃ verdict, evaluateConditions "\x7b\"k\":1.7e308\x7d" "\x7b\x7d" = .ok verdict := by
  intro below above
  have hbelow : Json.NumeralText below "1.7e308".toList :=
    ⟨_, ⟨by decide, _, _, .point (by decide) (by decide),
      .some (.inl rfl) .none (by decide) (by decide), rfl⟩, rfl⟩
  have habove : Json.NumeralText above "1.8e308".toList :=
    ⟨_, ⟨by decide, _, _, .point (by decide) (by decide),
      .some (.inl rfl) .none (by decide) (by decide), rfl⟩, rfl⟩
  have hlow : below.size ≤ (2 ^ 53 - 4) * topUnit := by
    have hnat : 17 * 10 ^ 307 ≤ (2 ^ 53 - 4) * 2 ^ 971 := by decide +kernel
    have hcast := (Nat.cast_le (α := ℚ)).mpr hnat
    have hcount : ((2 ^ 53 - 4 : Nat) : ℚ) = 2 ^ 53 - 4 := by norm_num
    rw [Decimal.Binary64.cast_mul_topUnit, hcount] at hcast
    rw [Json.Numeral.size_eq_cast (n := below) (k := 307) (by decide)]
    exact hcast
  have hhigh : (2 ^ 53 + 4) * topUnit ≤ above.size := by
    have hnat : (2 ^ 53 + 4) * 2 ^ 971 ≤ 18 * 10 ^ 307 := by decide +kernel
    have hcast := (Nat.cast_le (α := ℚ)).mpr hnat
    have hcount : ((2 ^ 53 + 4 : Nat) : ℚ) = 2 ^ 53 + 4 := by norm_num
    rw [Decimal.Binary64.cast_mul_topUnit, hcount] at hcast
    rw [Json.Numeral.size_eq_cast (n := above) (k := 307) (by decide)]
    exact hcast
  have houtcome := outcome_of_texts "\x7b\"k\":1.7e308\x7d" "\x7b\x7d"
  obtain ⟨x, hx⟩ := (houtcome.2.2.2 below _ hbelow (by decide)).1 hlow
  have hrefused := (houtcome.2.2.2 above _ habove (by decide)).2 hhigh
  have hcondition : Condition.WritesMembers "\x7b\x7d" [] :=
    ⟨[], _, [], .nil, .nil .nil, .nil, rfl⟩
  have hcontext : Context.WritesMembers "\x7b\"k\":1.7e308\x7d" [("k", .number x)] :=
    Json.writes_member "k" hx (by decide)
  exact ⟨⟨hlow, x, hx⟩, ⟨hhigh, hrefused⟩, houtcome.2.2.1.mpr ⟨⟨_, hcondition⟩, ⟨_, hcontext⟩⟩⟩

/-- The end of the range is not that of doubles: a number below the greatest double is
refused, because its significand is rounded up before it is scaled, and one beyond
`2 ^ 1024` is taken. -/
theorem range_ends_early_and_late :
    let early : Json.Numeral :=
      ⟨false, "1797693134862315708".toList, [], some ⟨true, ['2', '9', '0']⟩⟩
    let late : Json.Numeral :=
      ⟨false, "179769313486231599".toList, [], some ⟨true, ['2', '9', '1']⟩⟩
    (Json.DocumentText (Json.ObjectText Json.NumeralText) [("k", early)]
        "\x7b\"k\":1797693134862315708e290\x7d".toList ∧ early.size ≤ greatest ∧
      evaluateConditions "\x7b\"k\":1797693134862315708e290\x7d" "\x7b\x7d" =
        .error (.invalidContext .numberOutOfRange)) ∧
    (Json.DocumentText (Json.ObjectText Json.NumeralText) [("k", late)]
        "\x7b\"k\":179769313486231599e291\x7d".toList ∧ 2 ^ 53 * topUnit ≤ late.size ∧
      evaluateConditions "\x7b\"k\":179769313486231599e291\x7d" "\x7b\x7d" = .ok true) := by
  intro early late
  have hearly : early.size ≤ greatest := by
    have hnat : 1797693134862315708 * 10 ^ 290 ≤ greatest := by decide +kernel
    rw [Json.Numeral.size_eq_cast (n := early) (k := 290) (by decide)]
    exact Nat.cast_le.mpr hnat
  have hlate : 2 ^ 53 * topUnit ≤ late.size := by
    have hnat : 2 ^ 53 * 2 ^ 971 ≤ 179769313486231599 * 10 ^ 291 := by decide +kernel
    have hcast := (Nat.cast_le (α := ℚ)).mpr hnat
    have hcount : ((2 ^ 53 : Nat) : ℚ) = 2 ^ 53 := by norm_num
    rw [Decimal.Binary64.cast_mul_topUnit, hcount] at hcast
    rw [Json.Numeral.size_eq_cast (n := late) (k := 291) (by decide)]
    exact hcast
  have hearlytext : Json.NumeralText early "1797693134862315708e290".toList :=
    ⟨_, ⟨by decide, _, _, .none, .some (.inl rfl) .none (by decide) (by decide), rfl⟩, rfl⟩
  have hlatetext : Json.NumeralText late "179769313486231599e291".toList :=
    ⟨_, ⟨by decide, _, _, .none, .some (.inl rfl) .none (by decide) (by decide), rfl⟩, rfl⟩
  exact ⟨⟨Json.writes_member "k" hearlytext (by decide), hearly, by decide +kernel⟩,
    ⟨Json.writes_member "k" hlatetext (by decide), hlate, by decide +kernel⟩⟩

end AccessDecision
