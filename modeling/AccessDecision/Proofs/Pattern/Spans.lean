import AccessDecision.Proofs.Pattern.Nesting

/-
  The spans of a template

  `delimiterSpans` finds in one scan over the bytes of a template where its fragments
  lie: each span reaches from an outermost opening delimiter to behind the closing one
  that belongs to it. The reader of templates keeps the fragments themselves. Both cut
  the template alike.

  What is proved:
    1. `delimiterSpans_isSome_iff` — there are spans exactly if the bytes nest.
    2. `delimiterSpans_of_parts` — they lie where the fragments of the template lie.
    3. `isSpan_of_parts`, `pairwise_spansFrom` and `covered_of_parts` — what a span is,
       that they lie one behind the other, and that no delimiter lies outside of them.
    4. `cutAlong_of_parts` — cut along its spans a template falls into its literal
       texts and its fragments.
-/

namespace AccessDecision.Template

open Text

/-! ## The scan -/

section
variable {opening closing : UInt8} {bytes : List UInt8}

/-- The scan for spans counts as `nest` does. -/
theorem level_foldlM_step (s : SpanScan) (position : Nat) :
    ((bytes.zipIdx position).foldlM (SpanScan.step opening closing) s).map (·.level) =
      bytes.foldlM (nest opening closing) s.level := by
  induction bytes generalizing s position with
  | nil => rfl
  | cons byte bytes ih =>
    have hstep : (s.step opening closing (byte, position)).map (·.level) =
        nest opening closing s.level byte := by
      obtain ⟨level, start, spans⟩ := s
      simp only [SpanScan.step, nest]
      split
      · cases level <;> rfl
      · split
        · rcases level with _ | _ | level <;> rfl
        · rfl
    rw [List.zipIdx_cons, List.foldlM_cons, List.foldlM_cons, ← hstep]
    cases s.step opening closing (byte, position) with
    | none => rfl
    | some s' => exact ih s' (position + 1)

/-- A scan finds spans exactly if the bytes nest. -/
theorem delimiterSpans_isSome_iff :
    (delimiterSpans opening closing bytes).isSome = true ↔
      nesting opening closing bytes = some 0 := by
  have hlevel : (bytes.zipIdx.foldlM (SpanScan.step opening closing) ⟨0, 0, []⟩).map (·.level) =
      bytes.foldlM (nest opening closing) 0 := level_foldlM_step ⟨0, 0, []⟩ 0
  rw [delimiterSpans, nesting, ← hlevel]
  cases bytes.zipIdx.foldlM (SpanScan.step opening closing) ⟨0, 0, []⟩ with
  | none => simp
  | some s =>
    obtain ⟨level, start, spans⟩ := s
    cases level <;> simp

/-- Inside of a span the scan only counts. -/
theorem foldlM_step_inside {start level level' position : Nat} {spans : List (Nat × Nat)}
    (h : bytes.foldlM (nest opening closing) level = some level') :
    (bytes.zipIdx position).foldlM (SpanScan.step opening closing) ⟨level + 1, start, spans⟩ =
      some ⟨level' + 1, start, spans⟩ := by
  induction bytes generalizing level position with
  | nil =>
    cases h
    rfl
  | cons byte bytes ih =>
    rw [List.foldlM_cons] at h
    obtain ⟨level₁, hnest, hrest⟩ := Option.bind_eq_some_iff.mp h
    -- The scan is one level deeper than the count, so no byte that the count can take
    -- brings it back to level zero and ends the span.
    have hstep : SpanScan.step opening closing ⟨level + 1, start, spans⟩ (byte, position) =
        some ⟨level₁ + 1, start, spans⟩ := by
      unfold nest at hnest
      unfold SpanScan.step
      dsimp only
      split at hnest
      · rename_i hopening
        cases hnest
        rw [if_pos hopening]
        rfl
      · rename_i hopening
        rw [if_neg hopening]
        split at hnest
        · rename_i hclosing
          rw [if_pos hclosing]
          cases level with
          | zero => cases hnest
          | succ level =>
            cases hnest
            rfl
        · rename_i hclosing
          cases hnest
          rw [if_neg hclosing]
    rw [List.zipIdx_cons, List.foldlM_cons, hstep]
    exact ih hrest

/-- Where no delimiter stands the scan goes on as it is. -/
theorem foldlM_step_free (h : Free opening closing bytes) (s : SpanScan) (position : Nat) :
    (bytes.zipIdx position).foldlM (SpanScan.step opening closing) s = some s := by
  induction bytes generalizing position with
  | nil => rfl
  | cons byte bytes ih =>
    obtain ⟨⟨hopening, hclosing⟩, hfree⟩ := h.of_cons
    have hstep : s.step opening closing (byte, position) = some s := by
      rw [SpanScan.step, if_neg hopening, if_neg hclosing]
    rw [List.zipIdx_cons, List.foldlM_cons, hstep]
    exact ih hfree (position + 1)

/-- A fragment with its delimiters is one span more. -/
theorem foldlM_step_fragment (hne : opening ≠ closing) (h : Nests opening closing bytes)
    (more : List UInt8) (start position : Nat) (spans : List (Nat × Nat)) :
    ((opening :: (bytes ++ closing :: more)).zipIdx position).foldlM
        (SpanScan.step opening closing) ⟨0, start, spans⟩ =
      (more.zipIdx (position + bytes.length + 2)).foldlM (SpanScan.step opening closing)
        ⟨0, position, (position, position + bytes.length + 2) :: spans⟩ := by
  have hopen : SpanScan.step opening closing ⟨0, start, spans⟩ (opening, position) =
      some ⟨1, position, spans⟩ := if_pos rfl
  have hclose : SpanScan.step opening closing ⟨1, position, spans⟩
      (closing, position + bytes.length + 1) =
        some ⟨0, position, (position, position + bytes.length + 2) :: spans⟩ := by
    rw [SpanScan.step, if_neg (Ne.symm hne), if_pos rfl]
    rfl
  have hinside : (bytes.zipIdx (position + 1)).foldlM (SpanScan.step opening closing)
      ⟨1, position, spans⟩ = some ⟨1, position, spans⟩ := foldlM_step_inside (h 0)
  rw [List.zipIdx_cons, List.foldlM_cons, hopen, Option.bind_eq_bind, Option.bind_some,
    List.zipIdx_append, List.foldlM_append, hinside, Option.bind_eq_bind, Option.bind_some,
    List.zipIdx_cons, List.foldlM_cons, Nat.add_right_comm, hclose]
  rfl

end

/-! ## Where the fragments lie -/

/-- The text of the fragments and the literal texts behind them. -/
def restText (o c : Char) : List (List Char × List Char) → List Char
  | [] => []
  | (fragment, literal) :: rest => o :: (fragment ++ c :: (literal ++ restText o c rest))

theorem text_eq (o c : Char) (t : Template) : t.text o c = t.head ++ restText o c t.rest := by
  obtain ⟨head, rest⟩ := t
  induction rest with
  | nil => rfl
  | cons x rest ih =>
    obtain ⟨fragment, literal⟩ := x
    simp only [text, List.append_cancel_left_eq] at ih
    simp [text, restText, ih]

/-- A text with a fragment behind it. -/
def withFragment (o c : Char) (before fragment : List Char) : List Char :=
  before ++ o :: (fragment ++ [c])

theorem append_restText_cons (o c : Char) (before fragment literal : List Char)
    (rest : List (List Char × List Char)) :
    before ++ restText o c ((fragment, literal) :: rest) =
      withFragment o c before fragment ++ (literal ++ restText o c rest) := by
  simp [restText, withFragment]

section
variable {opening closing : UInt8} {cs : List Char}

/-- The bytes of a template: those of a literal text are free of delimiters, those of a
fragment nest, and the delimiters differ if there is a fragment at all. -/
structure Parts (opening closing : UInt8) (cs : List Char) (t : Template) : Prop where
  text : t.head ++ restText (delimiter opening) (delimiter closing) t.rest = cs
  head : Free opening closing (utf8 t.head)
  rest : ∀ x ∈ t.rest, Nests opening closing (utf8 x.1) ∧ Free opening closing (utf8 x.2)
  distinct : t.rest ≠ [] → opening ≠ closing

theorem parts_of_ofText? (hopening : opening < 128) (hclosing : closing < 128) {t : Template}
    (h : ofText? (delimiter opening) (delimiter closing) cs = some t) :
    Parts opening closing cs t := by
  have hsplits := splits_of_ofText? h
  have htext := hsplits.text
  rw [text_eq] at htext
  have hdistinct : t.rest ≠ [] → opening ≠ closing := by
    rintro hrest rfl
    -- A byte that opens and closes does not occur at all.
    have hnests : nesting opening opening (utf8 cs) = some 0 :=
      (ofText?_isSome_iff hopening hopening).mp (by rw [h]; rfl)
    apply nesting_same.mp hnests
    obtain ⟨x, rest, hx⟩ := List.exists_cons_of_ne_nil hrest
    rw [← htext, hx, restText, utf8_append, utf8_fragment hopening hopening]
    simp
  refine ⟨htext, free_utf8 hopening hclosing hsplits.head, fun x hx => ?_, hdistinct⟩
  obtain ⟨hfragment, hafter⟩ := hsplits.rest x hx
  have hne := hdistinct (List.ne_nil_of_mem hx)
  exact ⟨nests_of_balanced hopening hclosing hne hfragment, free_utf8 hopening hclosing hafter⟩

/-- The spans of the fragments, the first of which starts at a position. -/
def spansFrom (position : Nat) : List (List Char × List Char) → List (Nat × Nat)
  | [] => []
  | (fragment, literal) :: rest =>
    let stop := position + (utf8 fragment).length + 2
    (position, stop) :: spansFrom (stop + (utf8 literal).length) rest

theorem le_of_mem_spansFrom {position : Nat} {rest : List (List Char × List Char)}
    {span : Nat × Nat} (h : span ∈ spansFrom position rest) : position ≤ span.1 := by
  induction rest generalizing position with
  | nil => cases h
  | cons x rest ih =>
    obtain ⟨fragment, literal⟩ := x
    rcases List.mem_cons.mp h with rfl | h
    · exact Nat.le_refl _
    · have hle := ih h
      omega

/-- The spans lie one behind the other. -/
theorem pairwise_spansFrom (position : Nat) (rest : List (List Char × List Char)) :
    (spansFrom position rest).Pairwise fun r s => r.1 < s.1 ∧ r.2 ≤ s.1 := by
  induction rest generalizing position with
  | nil => exact .nil
  | cons x rest ih =>
    obtain ⟨fragment, literal⟩ := x
    refine .cons (fun span hspan => ?_) (ih _)
    have hle := le_of_mem_spansFrom hspan
    constructor
    · show position < span.1
      omega
    · show position + (utf8 fragment).length + 2 ≤ span.1
      omega

section
variable (hopening : opening < 128) (hclosing : closing < 128)
include hopening hclosing

/-- Where the text behind a fragment starts. -/
theorem length_utf8_withFragment (before fragment : List Char) :
    (utf8 (withFragment (delimiter opening) (delimiter closing) before fragment)).length =
      (utf8 before).length + (utf8 fragment).length + 2 := by
  rw [withFragment, utf8_append, utf8_fragment hopening hclosing]
  simp only [List.length_append, List.length_cons, utf8_nil, List.length_nil]
  omega

/-- The scan finds the spans of the fragments. -/
theorem foldlM_step_rest (hne : opening ≠ closing) {rest : List (List Char × List Char)}
    (hrest : ∀ x ∈ rest, Nests opening closing (utf8 x.1) ∧ Free opening closing (utf8 x.2))
    (start position : Nat) (spans : List (Nat × Nat)) :
    ∃ start', ((utf8 (restText (delimiter opening) (delimiter closing) rest)).zipIdx
        position).foldlM (SpanScan.step opening closing) ⟨0, start, spans⟩ =
      some ⟨0, start', (spansFrom position rest).reverse ++ spans⟩ := by
  induction rest generalizing start position spans with
  | nil => exact ⟨start, rfl⟩
  | cons x rest ih =>
    obtain ⟨fragment, literal⟩ := x
    obtain ⟨⟨hfragment, hliteral⟩, hrest⟩ := List.forall_mem_cons.mp hrest
    obtain ⟨start', hspans⟩ := ih hrest position
      (position + (utf8 fragment).length + 2 + (utf8 literal).length)
      ((position, position + (utf8 fragment).length + 2) :: spans)
    refine ⟨start', ?_⟩
    rw [restText, utf8_fragment hopening hclosing, foldlM_step_fragment hne hfragment,
      utf8_append, List.zipIdx_append, List.foldlM_append, foldlM_step_free hliteral,
      Option.bind_eq_bind, Option.bind_some, hspans]
    simp [spansFrom]

/-- The spans of a template lie where its fragments do. -/
theorem delimiterSpans_of_parts {t : Template} (h : Parts opening closing cs t) :
    delimiterSpans opening closing (utf8 cs) =
      some (spansFrom (utf8 t.head).length t.rest) := by
  have hrest : ∃ start', ((utf8 (restText (delimiter opening) (delimiter closing) t.rest)).zipIdx
      (utf8 t.head).length).foldlM (SpanScan.step opening closing) ⟨0, 0, []⟩ =
        some ⟨0, start', (spansFrom (utf8 t.head).length t.rest).reverse ++ []⟩ := by
    by_cases hnil : t.rest = []
    · rw [hnil]
      exact ⟨0, rfl⟩
    · exact foldlM_step_rest hopening hclosing (h.distinct hnil) h.rest 0 _ []
  obtain ⟨start', hspans⟩ := hrest
  rw [delimiterSpans, ← h.text, utf8_append, List.zipIdx_append, List.foldlM_append,
    foldlM_step_free h.head, Option.bind_eq_bind, Option.bind_some, Nat.zero_add, hspans]
  simp

/-! ## What a span is -/

/-- The text splits around each of its fragments. -/
theorem split_of_mem_spansFrom (before : List Char) {rest : List (List Char × List Char)}
    {span : Nat × Nat} (h : span ∈ spansFrom (utf8 before).length rest) :
    ∃ front after, ∃ x ∈ rest,
      before ++ restText (delimiter opening) (delimiter closing) rest =
        front ++ delimiter opening :: (x.1 ++ delimiter closing :: after) ∧
      span = ((utf8 front).length, (utf8 front).length + (utf8 x.1).length + 2) := by
  induction rest generalizing before with
  | nil => cases h
  | cons x rest ih =>
    obtain ⟨fragment, literal⟩ := x
    rcases List.mem_cons.mp h with rfl | h
    · exact ⟨before, _, _, List.mem_cons_self, rfl, rfl⟩
    · rw [← length_utf8_withFragment hopening hclosing, ← List.length_append, ← utf8_append] at h
      obtain ⟨front, after, x, hx, htext, hspan⟩ := ih _ h
      refine ⟨front, after, x, List.mem_cons_of_mem _ hx, ?_, hspan⟩
      rw [append_restText_cons, ← List.append_assoc, htext]

end

/-- A span of a text starts with the opening and ends with the closing delimiter and
nests inside, and the text can be cut around both delimiters. -/
structure IsSpan (opening closing : UInt8) (text : String) (span : Nat × Nat) : Prop where
  length : span.1 + 2 ≤ span.2
  opens : (bytes text)[span.1]? = some opening
  closes : (bytes text)[span.2 - 1]? = some closing
  nests : nesting opening closing ((bytes text).extract (span.1 + 1) (span.2 - 1)) = some 0
  valid : ∀ i ∈ [span.1, span.1 + 1, span.2 - 1, span.2], String.Pos.Raw.IsValid text ⟨i⟩

/-! Positions in `front ++ a :: (middle ++ b :: back)`. -/

section
variable {α : Type} (front middle back : List α) (a b : α)

theorem getElem?_first : (front ++ a :: (middle ++ b :: back))[front.length]? = some a := by
  rw [List.getElem?_append_right (Nat.le_refl _), Nat.sub_self, List.getElem?_cons_zero]

theorem getElem?_last :
    (front ++ a :: (middle ++ b :: back))[front.length + middle.length + 1]? = some b := by
  have hsub : front.length + middle.length + 1 - front.length = middle.length + 1 := by omega
  rw [List.getElem?_append_right (by omega), hsub, List.getElem?_cons_succ,
    List.getElem?_append_right (Nat.le_refl _), Nat.sub_self, List.getElem?_cons_zero]

theorem extract_middle :
    (front ++ (middle ++ back)).extract front.length (front.length + middle.length) = middle := by
  rw [List.extract_eq_take_drop, List.drop_left, Nat.add_sub_cancel_left, List.take_left]

theorem extract_between :
    (front ++ a :: (middle ++ b :: back)).extract (front.length + 1)
      (front.length + middle.length + 1) = middle := by
  have hmiddle := extract_middle (front ++ [a]) middle (b :: back)
  rwa [List.length_append, List.append_assoc, List.length_singleton, Nat.add_right_comm] at hmiddle

theorem mem_of_getElem?_middle {i : Nat} (h : (front ++ (middle ++ back))[i]? = some a)
    (hfront : front.length ≤ i) (hback : i < front.length + middle.length) : a ∈ middle := by
  rw [List.getElem?_append_right hfront, List.getElem?_append_left (by omega)] at h
  exact List.mem_of_getElem? h

end

theorem isSpan_of_split (hopening : opening < 128) (hclosing : closing < 128) {text : String}
    {front fragment after : List Char}
    (htext : text.toList =
      front ++ delimiter opening :: (fragment ++ delimiter closing :: after))
    (hnests : nesting opening closing (utf8 fragment) = some 0) :
    IsSpan opening closing text
      ((utf8 front).length, (utf8 front).length + (utf8 fragment).length + 2) := by
  have hbytes : bytes text = utf8 front ++ opening :: (utf8 fragment ++ closing :: utf8 after) := by
    rw [← utf8_toList, htext, utf8_append, utf8_fragment hopening hclosing]
  -- Each of the four positions is the end of some characters in front.
  have hvalid : ∀ (part back : List Char) (i : Nat), text.toList = part ++ back →
      (utf8 part).length = i → String.Pos.Raw.IsValid text ⟨i⟩ := by
    rintro part back i h rfl
    exact isValid_of_append h
  have hfirst : utf8 (front ++ [delimiter opening]) = utf8 front ++ [opening] := by
    simp [utf8EncodeChar_delimiter hopening]
  refine ⟨Nat.add_le_add_right (Nat.le_add_right _ _) 2, ?_, ?_, ?_, ?_⟩
  · rw [hbytes]
    exact getElem?_first _ _ _ _ _
  · rw [hbytes]
    exact getElem?_last _ _ _ _ _
  · rw [hbytes]
    exact (congrArg (nesting opening closing) (extract_between _ _ _ _ _)).trans hnests
  · intro i hi
    simp only [List.mem_cons, List.not_mem_nil, or_false] at hi
    rcases hi with rfl | rfl | rfl | rfl
    · exact hvalid front _ _ htext rfl
    · apply hvalid (front ++ [delimiter opening]) (fragment ++ delimiter closing :: after)
      · rw [htext, List.append_assoc, List.singleton_append]
      · rw [hfirst, List.length_append, List.length_singleton]
    · apply hvalid (front ++ [delimiter opening] ++ fragment) (delimiter closing :: after)
      · rw [htext, List.append_assoc, List.append_assoc, List.singleton_append]
      · rw [utf8_append, hfirst, List.length_append, List.length_append, List.length_singleton]
        omega
    · apply hvalid (withFragment (delimiter opening) (delimiter closing) front fragment) after
      · rw [htext, withFragment]
        simp
      · exact length_utf8_withFragment hopening hclosing front fragment

/-! ## Nothing is left out -/

/-- Every delimiter behind the first literal text lies in a span. -/
theorem covered_spansFrom (hopening : opening < 128) (hclosing : closing < 128)
    (before : List Char) {rest : List (List Char × List Char)}
    (hrest : ∀ x ∈ rest, Free opening closing (utf8 x.2)) {i : Nat} {byte : UInt8}
    (hbyte : byte = opening ∨ byte = closing)
    (hi : (utf8 (before ++ restText (delimiter opening) (delimiter closing) rest))[i]? = some byte)
    (hbefore : (utf8 before).length ≤ i) :
    ∃ span ∈ spansFrom (utf8 before).length rest, span.1 ≤ i ∧ i < span.2 := by
  induction rest generalizing before with
  | nil =>
    rw [restText, List.append_nil] at hi
    obtain ⟨hlt, _⟩ := List.getElem?_eq_some_iff.mp hi
    omega
  | cons x rest ih =>
    obtain ⟨fragment, literal⟩ := x
    obtain ⟨hliteral, hrest⟩ := List.forall_mem_cons.mp hrest
    have hstop := length_utf8_withFragment hopening hclosing before fragment
    rw [append_restText_cons] at hi
    rw [spansFrom]
    by_cases hinside : i < (utf8 before).length + (utf8 fragment).length + 2
    · exact ⟨_, List.mem_cons_self, hbefore, hinside⟩
    · -- Behind the fragment comes its literal text, and then the rest.
      by_cases hafter : i < (utf8 before).length + (utf8 fragment).length + 2 +
          (utf8 literal).length
      · rw [utf8_append, utf8_append literal] at hi
        have hmem : byte ∈ utf8 literal :=
          mem_of_getElem?_middle _ _ _ _ hi (by omega) (by omega)
        rcases hbyte with rfl | rfl
        · exact absurd hmem hliteral.1
        · exact absurd hmem hliteral.2
      · rw [← List.append_assoc] at hi
        have hnext : (utf8 (withFragment (delimiter opening) (delimiter closing) before fragment ++
            literal)).length =
              (utf8 before).length + (utf8 fragment).length + 2 + (utf8 literal).length := by
          rw [utf8_append, List.length_append, hstop]
        obtain ⟨span, hspan, hin⟩ := ih _ hrest hi (by omega)
        rw [hnext] at hspan
        exact ⟨span, List.mem_cons_of_mem _ hspan, hin⟩

/-! ## Cutting along the spans -/

/-- The bytes from a position on, cut along the spans there: the literal text in front
of the first span, and for each span what is between its delimiters with the literal
text behind it. -/
def cutAlong (bytes : List UInt8) (position : Nat) :
    List (Nat × Nat) → List UInt8 × List (List UInt8 × List UInt8)
  | [] => (bytes.drop position, [])
  | (start, stop) :: spans =>
    let after := cutAlong bytes stop spans
    (bytes.extract position start, (bytes.extract (start + 1) (stop - 1), after.1) :: after.2)

/-- Cut along its spans a template falls into its literal texts and fragments. -/
theorem cutAlong_spansFrom (hopening : opening < 128) (hclosing : closing < 128)
    (before head : List Char) (rest : List (List Char × List Char)) :
    cutAlong (utf8 (before ++ (head ++ restText (delimiter opening) (delimiter closing) rest)))
        (utf8 before).length (spansFrom (utf8 (before ++ head)).length rest) =
      (utf8 head, rest.map fun x => (utf8 x.1, utf8 x.2)) := by
  -- What is cut off already stays in front, since spans count from the first byte.
  induction rest generalizing before head with
  | nil => simp [spansFrom, restText, cutAlong]
  | cons x rest ih =>
    obtain ⟨fragment, literal⟩ := x
    generalize hwhole : before ++ (head ++ restText (delimiter opening) (delimiter closing)
      ((fragment, literal) :: rest)) = whole
    have hbytes : utf8 whole = utf8 (before ++ head) ++ opening :: (utf8 fragment ++
        closing :: utf8 (literal ++ restText (delimiter opening) (delimiter closing) rest)) := by
      rw [← hwhole, ← List.append_assoc, utf8_append, restText, utf8_fragment hopening hclosing]
    have hhead : (utf8 whole).extract (utf8 before).length (utf8 (before ++ head)).length =
        utf8 head := by
      rw [hbytes, utf8_append, List.append_assoc, List.length_append]
      exact extract_middle _ _ _
    have hfragment : (utf8 whole).extract ((utf8 (before ++ head)).length + 1)
        ((utf8 (before ++ head)).length + (utf8 fragment).length + 2 - 1) = utf8 fragment := by
      rw [hbytes]
      exact extract_between _ _ _ _ _
    have hafter : cutAlong (utf8 whole)
        ((utf8 (before ++ head)).length + (utf8 fragment).length + 2)
        (spansFrom ((utf8 (before ++ head)).length + (utf8 fragment).length + 2 +
          (utf8 literal).length) rest) =
          (utf8 literal, rest.map fun x => (utf8 x.1, utf8 x.2)) := by
      rw [← hwhole, ← List.append_assoc, append_restText_cons,
        ← length_utf8_withFragment hopening hclosing, ← List.length_append, ← utf8_append]
      exact ih _ literal
    rw [spansFrom, cutAlong, hhead, hfragment, hafter, List.map_cons]

/-! ## The spans of a template -/

/-- Where there are spans there is a template, and they are those of its fragments. -/
theorem parts_of_delimiterSpans (hopening : opening < 128) (hclosing : closing < 128)
    {template : String} {spans : List (Nat × Nat)}
    (h : delimiterSpans opening closing (bytes template) = some spans) :
    ∃ t, ofText? (delimiter opening) (delimiter closing) template.toList = some t ∧
      Parts opening closing template.toList t ∧
      spans = spansFrom (utf8 t.head).length t.rest := by
  have hnests : nesting opening closing (utf8 template.toList) = some 0 := by
    rw [utf8_toList]
    exact delimiterSpans_isSome_iff.mp (Option.isSome_of_eq_some h)
  obtain ⟨t, ht⟩ := Option.isSome_iff_exists.mp ((ofText?_isSome_iff hopening hclosing).mpr hnests)
  have hparts := parts_of_ofText? hopening hclosing ht
  have hfound := delimiterSpans_of_parts hopening hclosing hparts
  rw [utf8_toList, h, Option.some.injEq] at hfound
  exact ⟨t, ht, hparts, hfound⟩

section
variable (hopening : opening < 128) (hclosing : closing < 128) {template : String} {t : Template}
  (h : Parts opening closing template.toList t)
include hopening hclosing h

theorem isSpan_of_parts {span : Nat × Nat}
    (hspan : span ∈ spansFrom (utf8 t.head).length t.rest) :
    IsSpan opening closing template span := by
  obtain ⟨front, after, x, hx, htext, rfl⟩ :=
    split_of_mem_spansFrom hopening hclosing t.head hspan
  rw [h.text] at htext
  exact isSpan_of_split hopening hclosing htext ((h.rest x hx).1 0)

theorem covered_of_parts {i : Nat} {byte : UInt8} (hi : (bytes template)[i]? = some byte)
    (hbyte : byte = opening ∨ byte = closing) :
    ∃ span ∈ spansFrom (utf8 t.head).length t.rest, span.1 ≤ i ∧ i < span.2 := by
  rw [← utf8_toList, ← h.text] at hi
  refine covered_spansFrom hopening hclosing t.head (fun x hx => (h.rest x hx).2) hbyte hi ?_
  by_contra hbefore
  -- The first literal text holds no delimiter.
  rw [utf8_append, List.getElem?_append_left (by omega)] at hi
  have hmem := List.mem_of_getElem? hi
  rcases hbyte with rfl | rfl
  · exact h.head.1 hmem
  · exact h.head.2 hmem

theorem cutAlong_of_parts :
    cutAlong (bytes template) 0 (spansFrom (utf8 t.head).length t.rest) =
      (utf8 t.head, t.rest.map fun x => (utf8 x.1, utf8 x.2)) := by
  have hcut := cutAlong_spansFrom hopening hclosing [] t.head t.rest
  rwa [List.nil_append, List.nil_append, h.text, utf8_toList, utf8_nil, List.length_nil] at hcut

end

end

end AccessDecision.Template
