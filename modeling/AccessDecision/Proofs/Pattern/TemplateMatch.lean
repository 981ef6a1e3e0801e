import AccessDecision.Proofs.Pattern.Glob
import AccessDecision.Proofs.Pattern.TemplateReading
import AccessDecision.Proofs.Pattern.TemplateText
import AccessDecision.Proofs.Regex.Counted

/-
  What a template matches

  `Cuts candidate t.head t.rest` says what it is for a candidate to fit a template: it
  is the literal texts, as they are written, with a piece between each two of them that
  the fragment there matches, where the fragment is parsed by itself.

  What is proved:
    1. `spans_items` — the items of a template span what can be cut.
    2. `fragments_without_groups_compose` — a template none of whose fragments starts
       with a question mark or holds the sign of a special group matches exactly the
       candidates that can be cut.
    3. `contained_fragments_keep_text` — so does every template whose fragments are
       contained, and what it matches starts with its first and ends with its last
       literal text.
    4. `uncontained_fragments_reach_out` — fragments that pass their check, but are not
       contained, change how the text around them is matched.
-/

namespace AccessDecision.Template

open Regex CompiledPattern

/-- The candidate goes on behind `before` as the fragments and the literal texts behind
them say: with a piece that the fragment by itself matches there, then with the literal
text, and so on to its end. -/
inductive Cuts (candidate : List Char) : List Char → List (List Char × List Char) → Prop where
  | last : Cuts candidate candidate []
  | fragment {before piece fragment literal : List Char} {rest : List (List Char × List Char)}
      {e : Expr} : parse fragment = .ok e →
      Spans candidate.toArray e before.length (before ++ piece).length →
      Cuts candidate (before ++ piece ++ literal) rest →
      Cuts candidate before ((fragment, literal) :: rest)

/-- The literal text behind the last fragment. -/
def last (t : Template) : List Char := (t.rest.getLast?.map (·.2)).getD t.head

section
variable {candidate before : List Char} {rest : List (List Char × List Char)}

theorem Cuts.starts (h : Cuts candidate before rest) : before <+: candidate := by
  induction h with
  | last => exact List.prefix_refl candidate
  | @fragment before piece _ literal _ _ _ _ _ ih =>
    rw [List.append_assoc] at ih
    exact (List.prefix_append before (piece ++ literal)).trans ih

theorem Cuts.ends (h : Cuts candidate before rest) :
    (rest.getLast?.map (·.2)).getD before <:+ candidate := by
  induction h with
  | last => exact List.suffix_refl candidate
  | @fragment before piece fragment literal rest _ _ _ hrest ih =>
    cases rest with
    | nil =>
      cases hrest
      exact List.suffix_append (before ++ piece) literal
    | cons x rest =>
      have hlast := List.getLast?_eq_some_getLast (List.cons_ne_nil x rest)
      rw [hlast] at ih
      rw [List.getLast?_cons_cons, hlast]
      exact ih

/-! ## What the items span -/

theorem append_prefix_iff {a b text : List Char} :
    a ++ b <+: text ↔ a <+: text ∧ b <+: text.drop a.length := by
  constructor
  · intro h
    obtain ⟨rest, rfl⟩ := h
    refine ⟨⟨b ++ rest, by simp⟩, ⟨rest, by simp⟩⟩
  · intro h
    obtain ⟨⟨rest, rfl⟩, hb⟩ := h
    rw [List.drop_left] at hb
    exact (List.prefix_append_right_inj a).mpr hb

/-- The items of a literal text span it as it is written. -/
theorem spans_literals {text literal : List Char} {es : List Expr} {i k : Nat} :
    Spans text.toArray (.seqs (literal.map (fun c => (literalPiece {} c).expr) ++ es)) i k ↔
      literal <+: text.drop i ∧ Spans text.toArray (.seqs es) (i + literal.length) k :=
  spans_singles

/-- Behind a start of the candidate the items span what can be cut behind it. -/
theorem spans_items {ps : List Piece} {j : Nat} (hitems : Items rest ps)
    (hdepth : ∀ p ∈ ps, p.depth ≤ depthLimit) (hbefore : before <+: candidate) :
    Spans candidate.toArray (.seqs (ps.map (·.expr))) before.length j ↔
      j = candidate.length ∧ Cuts candidate before rest := by
  induction hitems generalizing before with
  | last =>
    show Spans candidate.toArray (.look .textEnd) before.length j ↔ _
    rw [spans_textEnd]
    constructor
    · intro h
      obtain ⟨hlength, rfl⟩ := h
      obtain rfl := hbefore.eq_of_length_le hlength
      exact ⟨rfl, .last⟩
    · intro h
      obtain ⟨rfl, hcuts⟩ := h
      cases hcuts
      exact ⟨Nat.le_refl _, rfl⟩
  | @fragment fragment literal rest ps a hread houter _ ih =>
    obtain ⟨hgroup, hmore⟩ := List.forall_mem_cons.mp hdepth
    have hdepth : ∀ p ∈ ps, p.depth ≤ depthLimit := fun p hp =>
      hmore p (List.mem_append_right _ hp)
    have hparse := parse_of_item hread houter hgroup
    simp only [List.map_cons, List.map_append, List.map_map, spans_seqs_cons, spans_group]
    constructor
    · intro h
      obtain ⟨m, hspans, hrest⟩ := h
      obtain ⟨hliteral, hrest⟩ := spans_literals.mp hrest
      obtain ⟨hle, hin⟩ := hspans.bounds
      have hm : m ≤ candidate.length := hin hbefore.length_le
      -- The piece of the fragment is what lies between the two positions.
      obtain ⟨piece, hpiece⟩ : before <+: candidate.take m :=
        List.prefix_take_iff.mpr ⟨hbefore, hle⟩
      have hlength : (before ++ piece).length = m := by
        rw [hpiece, List.length_take, Nat.min_eq_left hm]
      have hstart : before ++ piece ++ literal <+: candidate := by
        rw [append_prefix_iff, hlength, hpiece]
        exact ⟨List.take_prefix m candidate, hliteral⟩
      rw [← hlength, ← List.length_append, ih hdepth hstart] at hrest
      obtain ⟨rfl, hcuts⟩ := hrest
      exact ⟨rfl, .fragment hparse (hlength ▸ hspans) hcuts⟩
    · intro h
      obtain ⟨rfl, hcuts⟩ := h
      cases hcuts with
      | @fragment _ piece _ _ _ e hparse' hspans hcuts =>
        cases hparse.symm.trans hparse'
        have hstart := hcuts.starts
        refine ⟨_, hspans, spans_literals.mpr ⟨(append_prefix_iff.mp hstart).2, ?_⟩⟩
        rw [← List.length_append, ih hdepth hstart]
        exact ⟨rfl, hcuts⟩

end

/-- The expression of a template whose fragments are contained matches exactly the
candidates that can be cut. -/
theorem isMatch_expr {t : Template} (hrest : Sound t.rest) {e : Expr}
    (hparse : parse t.regex = .ok e) (candidate : String) :
    e.isMatch candidate = true ↔ Cuts candidate.toList t.head t.rest := by
  obtain ⟨ps, hitems, he, hdepth⟩ := items_of_parse hrest hparse
  have hspans : ∀ {i j}, i ≤ candidate.toList.length → (Spans candidate.toList.toArray e i j ↔
      i = 0 ∧ t.head <+: candidate.toList ∧
        Spans candidate.toList.toArray (.seqs (ps.map (·.expr))) t.head.length j) := by
    intro i j hi
    rw [he, headItems, List.map_cons, List.map_append, List.map_map, spans_seqs_cons]
    simp only [spans_textStart]
    constructor
    · intro h
      obtain ⟨_, ⟨hstart, rfl⟩, hmore⟩ := h
      obtain rfl : i = 0 := by omega
      have hmore := spans_literals.mp hmore
      rw [Nat.zero_add, List.drop_zero] at hmore
      exact ⟨rfl, hmore⟩
    · intro h
      obtain ⟨rfl, hmore⟩ := h
      refine ⟨0, ⟨.inl rfl, rfl⟩, spans_literals.mpr ?_⟩
      rw [Nat.zero_add, List.drop_zero]
      exact hmore
  rw [isMatch_iff (counted_parse hparse)]
  constructor
  · intro h
    obtain ⟨i, j, hi, h⟩ := h
    obtain ⟨_, hhead, h⟩ := (hspans hi).mp h
    exact ((spans_items hitems hdepth hhead).mp h).2
  · intro h
    have hhead := h.starts
    exact ⟨0, _, Nat.zero_le _, (hspans (Nat.zero_le _)).mpr
      ⟨rfl, hhead, (spans_items hitems hdepth hhead).mpr ⟨rfl, h⟩⟩⟩

/-! ## Compiled templates -/

section
variable {template : String} {opening closing : UInt8} {budget : Time.Duration}
  {p : CompiledPattern}

/-- The character of a delimiter. -/
def delimiter (byte : UInt8) : Char := Char.ofNat byte.toNat

theorem delimiter_inj (h : opening ≠ closing) : delimiter opening ≠ delimiter closing := by
  have hcode : ∀ byte : UInt8, (delimiter byte).toNat = byte.toNat := by
    intro byte
    have hvalid : byte.toNat.isValidChar := by
      have hlt := byte.toNat_lt
      exact .inl (by omega)
    rw [delimiter, Char.ofNat, dif_pos hvalid]
    rfl
  intro heq
  have hcodes := congrArg Char.toNat heq
  rw [hcode, hcode] at hcodes
  exact h (UInt8.toNat_inj.mp hcodes)

/-- A template that compiles has split, its fragments have passed their checks, and its
expression has parsed. -/
theorem of_compile (h : compileWithBudget template opening closing budget = .ok p) :
    ∃ t, ofText? (delimiter opening) (delimiter closing) template.toList = some t ∧
      checkFragments t.fragments = .ok () ∧ parse t.regex = .ok p.expr ∧ p.budget = budget := by
  unfold compileWithBudget at h
  split at h
  · cases h
  · split at h
    · cases h
    · rename_i t hsplit
      split at h
      · cases h
      · rename_i hcheck
        unfold CompiledPattern.ofExpression Regex.compile at h
        split at h
        · cases h
        · rename_i e hcompile
          cases h
          split at hcompile
          · cases hcompile
          · rename_i e' hparse
            obtain ⟨_, hok⟩ := Except.ite_else_error_eq_ok.mp hcompile
            cases hok
            exact ⟨t, hsplit, hcheck, hparse, rfl⟩

/-- A compiled template splits in one way, and if its fragments are contained it decides
by the cuts that this gives. -/
theorem splits_and_decides (hne : opening ≠ closing)
    (h : compileWithBudget template opening closing budget = .ok p) :
    ∃ t : Template, (∀ t' : Template,
        t'.Splits (delimiter opening) (delimiter closing) template.toList ↔ t' = t) ∧
      p.budget = budget ∧ ((∀ fragment ∈ t.fragments, Contained fragment) →
        ∀ candidate : String, p.expr.isMatch candidate = true ↔
          Cuts candidate.toList t.head t.rest) := by
  obtain ⟨t, hsplit, hcheck, hparse, hbudget⟩ := of_compile h
  refine ⟨t, fun t' => ?_, hbudget, fun hcontained candidate => ?_⟩
  · rw [← ofText?_eq_some (delimiter_inj hne), hsplit, Option.some.injEq]
    exact eq_comm
  · have hsound : Sound t.rest := by
      intro x hx
      have hmem : x.1 ∈ t.fragments := List.mem_map.mpr ⟨x, hx, rfl⟩
      exact ⟨standalone_of_check hcheck _ hmem, hcontained _ hmem⟩
    exact isMatch_expr hsound hparse candidate

/-- A template that compiles, and none of whose fragments starts with a question mark or
holds the sign of a special group, matches in time exactly the candidates that can be cut
into its literal texts and pieces that its fragments match by themselves. -/
theorem fragments_without_groups_compose (hne : opening ≠ closing)
    (h : compileWithBudget template opening closing budget = .ok p) :
    ∃ t : Template, (∀ t' : Template,
        t'.Splits (delimiter opening) (delimiter closing) template.toList ↔ t' = t) ∧
      ((∀ fragment ∈ t.fragments, fragment.head? ≠ some '?' ∧ ¬ ['(', '?'] <:+: fragment) →
        ∀ (clock : Clock) (candidate : String), clock 0 p ≤ budget →
          (p.isMatch clock candidate = .ok true ↔ Cuts candidate.toList t.head t.rest) ∧
          (p.isMatch clock candidate = .ok false ↔ ¬ Cuts candidate.toList t.head t.rest)) := by
  obtain ⟨t, hsplits, hbudget, hdecides⟩ := splits_and_decides hne h
  refine ⟨t, hsplits, fun hplain clock candidate htime => ?_⟩
  have hcontained : ∀ fragment ∈ t.fragments, Contained fragment := by
    intro fragment hmem
    obtain ⟨hstart, hgroup⟩ := hplain fragment hmem
    exact ⟨hstart, keepsBlanks_of_not_infix hgroup⟩
  rw [isMatch_of_inTime (hbudget ▸ htime), ← hdecides hcontained]
  simp

theorem dotted_template_composes : (60 : UInt8) ≠ 62 ∧
    ∃ p, compile "a.<b+>.c" 60 62 = .ok p ∧
      ∀ (clock : Clock) (candidate : String),
        clock 0 p ≤ MatcherConfig.default.matchTimeout →
        (p.isMatch clock candidate = .ok true ↔
          Cuts candidate.toList ['a', '.'] [(['b', '+'], ['.', 'c'])]) := by
  have hcompiles : ((compile "a.<b+>.c" 60 62).map fun _ => ()).toOption = some () := by
    decide +kernel
  obtain ⟨p, hp, _⟩ := Except.map_eq_ok.mp (Except.toOption_eq_some.mp hcompiles)
  refine ⟨by decide, p, hp, fun clock candidate htime => ?_⟩
  obtain ⟨t, hsplits, hdecides⟩ := fragments_without_groups_compose (by decide) hp
  obtain rfl := (hsplits ⟨['a', '.'], [(['b', '+'], ['.', 'c'])]⟩).mp
    ((ofText?_eq_some (by decide)).mp (by decide +kernel))
  exact (hdecides (by decide) clock candidate htime).1

/-- If all fragments of a template that compiles are contained, it matches exactly the
candidates that can be cut and are answered in time. So these start with its first and
end with its last literal text, and no fragment has a say in how the text outside of it
is matched. -/
theorem contained_fragments_keep_text (hne : opening ≠ closing)
    (h : compileWithBudget template opening closing budget = .ok p) :
    ∃ t : Template, (∀ t' : Template,
        t'.Splits (delimiter opening) (delimiter closing) template.toList ↔ t' = t) ∧
      ((∀ fragment ∈ t.fragments, Contained fragment) → ∀ (clock : Clock) (candidate : String),
        (p.isMatch clock candidate = .ok true ↔
          clock 0 p ≤ budget ∧ Cuts candidate.toList t.head t.rest) ∧
        (p.isMatch clock candidate = .ok true →
          t.head <+: candidate.toList ∧ t.last <:+ candidate.toList)) := by
  obtain ⟨t, hsplits, hbudget, hdecides⟩ := splits_and_decides hne h
  refine ⟨t, hsplits, fun hcontained clock candidate => ?_⟩
  have haccepts : p.isMatch clock candidate = .ok true ↔
      clock 0 p ≤ budget ∧ Cuts candidate.toList t.head t.rest := by
    by_cases htime : clock 0 p ≤ p.budget
    · rw [isMatch_of_inTime htime, ← hdecides hcontained, ← hbudget]
      simp [htime]
    · have hlate : p.isMatch clock candidate =
          .error (.matchTimeout p.source (clock 0 p) p.budget) := by
        rw [CompiledPattern.isMatch, checkBudget, if_neg htime]
        rfl
      rw [hlate, ← hbudget]
      simp [htime]
  refine ⟨haccepts, fun haccepted => ?_⟩
  have hcuts := (haccepts.mp haccepted).2
  exact ⟨hcuts.starts, hcuts.ends⟩

theorem flagged_fragment_keeps_text : (60 : UInt8) ≠ 62 ∧
    ∃ p, compile "a<(?s).>b" 60 62 = .ok p ∧
      ∀ (clock : Clock) (candidate : String), p.isMatch clock candidate = .ok true →
        ['a'] <+: candidate.toList ∧ ['b'] <:+ candidate.toList := by
  have hcompiles : ((compile "a<(?s).>b" 60 62).map fun _ => ()).toOption = some () := by
    decide +kernel
  obtain ⟨p, hp, _⟩ := Except.map_eq_ok.mp (Except.toOption_eq_some.mp hcompiles)
  refine ⟨by decide, p, hp, fun clock candidate haccepted => ?_⟩
  obtain ⟨t, hsplits, hdecides⟩ := contained_fragments_keep_text (by decide) hp
  obtain rfl := (hsplits ⟨['a'], [(['(', '?', 's', ')', '.'], ['b'])]⟩).mp
    ((ofText?_eq_some (by decide)).mp (by decide +kernel))
  have hcontained : Contained ['(', '?', 's', ')', '.'] := by
    refine ⟨by decide, fun before signs after htext _ hx => ?_⟩
    have hmem : 'x' ∈ ['(', '?', 's', ')', '.'] := by
      rw [htext]
      simp [hx]
    exact absurd hmem (by decide)
  exact (hdecides (List.forall_mem_singleton.mpr hcontained) clock candidate).2 haccepted

/-- A question mark at the start of a fragment makes flags of it, and these hold for the
text behind it: under `m` the end of a line is as good as the end of the text. A fragment
under whose flag blanks do not count makes a comment of the text up to the next line,
and the fragment there can close both groups. -/
theorem uncontained_fragments_reach_out :
    (∃ (p : CompiledPattern) (t : Template), compile "<?m>abc" 60 62 = .ok p ∧
      t.Splits (delimiter 60) (delimiter 62) "<?m>abc".toList ∧
      p.isMatch (fun _ _ => .zero) "abc\nxyz" = .ok true ∧
      ¬ t.last <:+ "abc\nxyz".toList) ∧
    (∃ (p : CompiledPattern) (t : Template), compile "<(?x)#>a\n<(#(\n))>b" 60 62 = .ok p ∧
      t.Splits (delimiter 60) (delimiter 62) "<(?x)#>a\n<(#(\n))>b".toList ∧
      p.isMatch (fun _ _ => .zero) "b" = .ok true ∧
      ∃ x ∈ t.rest, ¬ x.2 <:+: "b".toList) := by
  have hmatches : ∀ {template candidate : String},
      ((compile template 60 62).bind fun p => p.isMatch (fun _ _ => .zero) candidate).toOption =
        some true →
      ∃ p, compile template 60 62 = .ok p ∧ p.isMatch (fun _ _ => .zero) candidate = .ok true :=
    fun h => Except.bind_eq_ok.mp (Except.toOption_eq_some.mp h)
  constructor
  · obtain ⟨p, hp, haccepted⟩ : ∃ p, compile "<?m>abc" 60 62 = .ok p ∧
        p.isMatch (fun _ _ => .zero) "abc\nxyz" = .ok true := hmatches (by decide +kernel)
    refine ⟨p, ⟨[], [(['?', 'm'], ['a', 'b', 'c'])]⟩, hp, ?_, haccepted, by decide +kernel⟩
    exact (ofText?_eq_some (by decide)).mp (by decide +kernel)
  · obtain ⟨p, hp, haccepted⟩ : ∃ p, compile "<(?x)#>a\n<(#(\n))>b" 60 62 = .ok p ∧
        p.isMatch (fun _ _ => .zero) "b" = .ok true := hmatches (by decide +kernel)
    refine ⟨p, ⟨[], [(['(', '?', 'x', ')', '#'], ['a', '\n']),
      (['(', '#', '(', '\n', ')', ')'], ['b'])]⟩, hp, ?_, haccepted,
      _, List.mem_cons_self, by decide +kernel⟩
    exact (ofText?_eq_some (by decide)).mp (by decide +kernel)

end

end AccessDecision.Template
