import AccessDecision.Pattern.Template
import AccessDecision.Proofs.Regex.Fragment

/-
  What the expression of a template is read as

  The expression of a template is one text, and it is parsed as one. It stands for its
  literal texts and its fragments one after the other only if no fragment reaches past
  the parentheses around it. The check of a fragment sees to that but for two things,
  which `Contained` excludes: a question mark at the start, which belongs to the
  parenthesis before it, and a flag under which blanks do not count.

  A last backslash passes the check and takes the closing parenthesis. The group then
  stays open whatever stands behind it, so no expression comes of it.

  What is proved:
    1. `outer_of_open` — behind a group that stays open the rest of a template closes
       nothing.
    2. `items_of_run` — so the expression of a template is read as its items: one for
       each literal character, and one group for each fragment as it is read alone.
-/

namespace AccessDecision.Template

open Regex

/-- The fragment has no hold on the text around it: it has no question mark at its
start, and no flag in it ends that blanks count. -/
structure Contained (fragment : List Char) : Prop where
  start : fragment.head? ≠ some '?'
  blanks : KeepsBlanks fragment

/-- The fragment stands between the two anchors. -/
def Standalone (fragment : List Char) : Prop :=
  ∃ fuel e, State.run fuel { level := Level.push {} ⟨.look .textStart, 0, true⟩ }
    (fragment ++ ['$']) = .ok e ∧ e.outer = []

theorem standalone_of_compile {fragment : List Char} {e : Expr}
    (h : Regex.compile (fragmentRegex fragment) = .ok e) : Standalone fragment := by
  unfold Regex.compile at h
  split at h
  · cases h
  · rename_i e hparse
    unfold parse at hparse
    split at hparse
    · cases hparse
    · rename_i s hrun
      obtain ⟨hclosed, _⟩ := Except.ite_else_error_eq_ok.mp hparse
      exact ⟨_, s, hrun, List.isEmpty_iff.mp hclosed⟩

theorem standalone_of_check {fragments : List (List Char)} (h : checkFragments fragments = .ok ()) :
    ∀ fragment ∈ fragments, Standalone fragment := by
  induction fragments with
  | nil => exact nofun
  | cons fragment rest ih =>
    rw [checkFragments] at h
    split at h
    · cases h
    · rename_i e hcompile
      exact List.forall_mem_cons.mpr ⟨standalone_of_compile hcompile, ih h⟩

/-! ## The text behind the first literal text -/

/-- The expression of the fragments and the literal texts behind them. -/
def restRegex : List (List Char × List Char) → List Char
  | [] => ['$']
  | (fragment, literal) :: rest =>
    '(' :: (fragment ++ ')' :: (Regex.escape literal ++ restRegex rest))

theorem regex_eq (t : Template) : t.regex = '^' :: (Regex.escape t.head ++ restRegex t.rest) := by
  obtain ⟨head, rest⟩ := t
  induction rest with
  | nil => simp [regex, restRegex]
  | cons x rest ih =>
    obtain ⟨fragment, literal⟩ := x
    simp only [regex, List.append_assoc, List.cons.injEq, List.append_cancel_left_eq,
      true_and] at ih
    simp [regex, restRegex, ih]

/-- Every fragment passes its check and is contained. -/
def Sound (rest : List (List Char × List Char)) : Prop :=
  ∀ x ∈ rest, Standalone x.1 ∧ Contained x.1

/-- The items that the fragments and the literal texts behind them are read as. -/
inductive Items : List (List Char × List Char) → List Piece → Prop where
  | last : Items [] [⟨.look .textEnd, 0, true⟩]
  | fragment {fragment literal : List Char} {rest : List (List Char × List Char)}
      {ps : List Piece} {a : State} : Reads {} fragment a [] → a.outer = [] → Items rest ps →
      Items ((fragment, literal) :: rest)
        (⟨.group true a.level.finish.expr, a.level.finish.depth + 1, true⟩ ::
          (literal.map (literalPiece {}) ++ ps))

section
variable {fuel : Nat} {s e : State} {rest : List (List Char × List Char)}

/-- The parenthesis in front of a fragment opens a group that captures. -/
theorem run_open {fragment T : List Char} (hblanks : s.flags.ignoreBlanks = false)
    (hstart : fragment.head? ≠ some '?')
    (hrun : State.run fuel s ('(' :: (fragment ++ ')' :: T)) = .ok e) :
    ∃ fuel', State.run fuel'
      { s with level := {}, outer := ⟨true, s.flags, s.level⟩ :: s.outer }
      (fragment ++ ')' :: T) = .ok e := by
  obtain ⟨fuel', t, mid, s', rfl, hread, hstep, hrest⟩ :=
    (run_eq_ok (List.cons_ne_nil _ _) hblanks).mp hrun
  have hmark : ∀ more, fragment ++ ')' :: T ≠ '?' :: more := by
    intro more heq
    cases fragment with
    | nil => cases heq
    | cons c fragment =>
      obtain ⟨rfl, _⟩ := List.cons.inj heq
      exact hstart rfl
  have hopen : readToken s.flags ('(' :: (fragment ++ ')' :: T)) =
      .ok (.open true none s.flags, fragment ++ ')' :: T) :=
    (readOpening_eq_ok hblanks).mpr (.group hmark)
  cases hopen.symm.trans hread
  cases hstep
  exact ⟨fuel', hrest⟩

theorem run_close {T : List Char} (hblanks : s.flags.ignoreBlanks = false)
    (hrun : State.run fuel s (')' :: T) = .ok e) :
    ∃ fuel' g outer, s.outer = g :: outer ∧ State.run fuel'
      { s with
        flags := g.flags
        level := g.level.push
          ⟨.group g.captures s.level.finish.expr, s.level.finish.depth + 1, true⟩
        outer := outer } T = .ok e := by
  obtain ⟨fuel', t, mid, s', rfl, hread, hstep, hrest⟩ :=
    (run_eq_ok (List.cons_ne_nil _ _) hblanks).mp hrun
  cases hread
  unfold State.step at hstep
  dsimp only at hstep
  split at hstep
  · cases hstep
  · rename_i g outer houter
    cases hstep
    exact ⟨fuel', g, outer, houter, hrest⟩

/-- A backslash takes the closing parenthesis, so the groups stay as they are. -/
theorem run_escaped_close {T : List Char} (hblanks : s.flags.ignoreBlanks = false)
    (hrun : State.run fuel s ('\\' :: ')' :: T) = .ok e) :
    ∃ fuel' level, State.run fuel' { s with level := level } T = .ok e := by
  obtain ⟨fuel', t, mid, s', rfl, hread, hstep, hrest⟩ :=
    (run_eq_ok (List.cons_ne_nil _ _) hblanks).mp hrun
  cases (readToken_escaped s.flags (by decide) T).symm.trans hread
  cases hstep
  exact ⟨fuel', _, hrest⟩

/-- Behind a group that stays open the rest of a template closes nothing. -/
theorem outer_of_open (hrest : Sound rest) (hblanks : BlanksCount s.stack) (hopen : s.outer ≠ [])
    (hrun : State.run fuel s (restRegex rest) = .ok e) : e.outer ≠ [] := by
  induction rest generalizing s fuel with
  | nil =>
    have hplain : s.flags.ignoreBlanks = false := hblanks _ List.mem_cons_self
    rw [run_last hplain (List.cons_ne_nil _ _) rfl hrun]
    exact hopen
  | cons x rest ih =>
    obtain ⟨fragment, literal⟩ := x
    obtain ⟨⟨⟨fuel₀, e₀, halone, hclosed⟩, hcontained⟩, hrest⟩ := List.forall_mem_cons.mp hrest
    have hplain : s.flags.ignoreBlanks = false := hblanks _ List.mem_cons_self
    -- Past the literal text the groups are as they are in front of it.
    have hgo : ∀ {fuel : Nat} {s : State}, BlanksCount s.stack → s.outer ≠ [] →
        State.run fuel s (Regex.escape literal ++ restRegex rest) = .ok e → e.outer ≠ [] := by
      intro fuel s hblanks hopen hrun
      obtain ⟨fuel', hrun'⟩ := (reads_escape (hblanks _ List.mem_cons_self) literal _).run_ok hrun
      refine ih hrest ?_ ?_ hrun'
      · exact hblanks
      · exact hopen
    obtain ⟨_, hinside⟩ := run_open hplain hcontained.start hrun
    have hcount : BlanksCount (s.flags :: s.flags :: s.outer.map (·.flags)) :=
      List.forall_mem_cons.mpr ⟨hplain, hblanks⟩
    have hstart : BlanksCount [{}] := List.forall_mem_cons.mpr ⟨rfl, nofun⟩
    obtain ⟨_, s', left, hleft, hdepth, hblanks', hmore⟩ :=
      run_nests halone hclosed hinside (Nat.zero_add _).symm hstart hcount hcontained.blanks
    have hplain' : s'.flags.ignoreBlanks = false := hblanks' _ List.mem_cons_self
    rcases hleft with rfl | rfl
    · obtain ⟨_, g, outer, houter, hmore⟩ := run_close hplain' hmore
      refine hgo ?_ ?_ hmore
      · refine fun flags hmem => hblanks' flags (List.mem_cons_of_mem _ ?_)
        rw [houter]
        exact hmem
      · intro hnil
        rw [houter] at hdepth
        simp only [List.length_cons, Nat.add_right_cancel_iff] at hdepth
        dsimp only at hnil
        rw [hnil] at hdepth
        exact hopen (List.length_eq_zero_iff.mp hdepth.symm)
    · obtain ⟨_, level, hmore⟩ := run_escaped_close hplain' hmore
      refine hgo (s := { s' with level := level }) hblanks' ?_ hmore
      intro hnil
      dsimp only at hnil
      rw [hnil] at hdepth
      cases hdepth

/-- Where no group is open, the rest of a template is read as its items. -/
theorem items_of_run (hrest : Sound rest) (hflags : s.flags = {}) (houter : s.outer = [])
    (hrun : State.run fuel s (restRegex rest) = .ok e) (hclosed : e.outer = []) :
    ∃ ps, Items rest ps ∧ e.level = s.level.pushAll ps := by
  obtain ⟨flags, names, level, outer⟩ := s
  obtain rfl : flags = {} := hflags
  obtain rfl : outer = [] := houter
  induction rest generalizing names level fuel with
  | nil =>
    obtain ⟨_, _, _, _, _, hread, hstep, hlast⟩ := (run_eq_ok (List.cons_ne_nil _ _) rfl).mp hrun
    cases hread
    cases hstep
    rw [run_nil hlast]
    exact ⟨_, .last, rfl⟩
  | cons x rest ih =>
    obtain ⟨fragment, literal⟩ := x
    obtain ⟨⟨⟨fuel₀, e₀, halone, hclosed₀⟩, hcontained⟩, hrest⟩ := List.forall_mem_cons.mp hrest
    obtain ⟨_, hinside⟩ := run_open rfl hcontained.start hrun
    have hstart : BlanksCount (State.stack {}) := List.forall_mem_cons.mpr ⟨rfl, nofun⟩
    have hwithin : State.Within [⟨true, {}, level⟩] {} ⟨{}, names, {}, [⟨true, {}, level⟩]⟩ :=
      ⟨rfl, rfl, rfl, List.nil_subset names⟩
    obtain ⟨_, a, s', left, hleft, hreads, houter, hblanks, hin, hmore⟩ :=
      run_fragment halone hclosed₀ hinside hwithin rfl hstart hcontained.blanks
    have hplain : s'.flags.ignoreBlanks = false := hin.flags ▸ hblanks _ List.mem_cons_self
    have hgroup : s'.outer = [⟨true, {}, level⟩] := by
      rw [hin.outer, houter]
      rfl
    rcases hleft with rfl | rfl
    · have hread : Reads {} fragment a [] := by
        have := hreads [] .nil
        rwa [List.append_nil] at this
      obtain ⟨_, g, outer, hopened, hmore⟩ := run_close hplain hmore
      obtain ⟨rfl, rfl⟩ := List.cons.inj (hopened.symm.trans hgroup)
      obtain ⟨_, hmore⟩ := (reads_escape rfl literal _).run_ok hmore
      obtain ⟨ps, hitems, hlevel⟩ := ih hrest _ _ hmore
      refine ⟨_, .fragment hread houter hitems, ?_⟩
      rw [hlevel, hin.level]
      simp [Level.pushAll, Level.push]
    · -- The group stays open, since the backslash takes the parenthesis.
      obtain ⟨_, level', hmore⟩ := run_escaped_close hplain hmore
      obtain ⟨_, hmore⟩ :=
        (reads_escape (s := { s' with level := level' }) hplain literal _).run_ok hmore
      refine absurd hclosed (outer_of_open hrest ?_ ?_ hmore)
      · show BlanksCount (s'.flags :: s'.outer.map (·.flags))
        rw [hgroup]
        exact List.forall_mem_cons.mpr ⟨hplain, hstart⟩
      · show s'.outer ≠ []
        rw [hgroup]
        exact List.cons_ne_nil _ _

end

/-! ## The whole expression -/

/-- The items of a template: the start of the text, the characters of the first literal
text, and what follows. -/
def headItems (head : List Char) (ps : List Piece) : List Piece :=
  ⟨.look .textStart, 0, true⟩ :: (head.map (literalPiece {}) ++ ps)

/-- The expression of a template whose fragments are contained is the sequence of its
items, and nests as deeply as each of them at least. -/
theorem items_of_parse {t : Template} (hrest : Sound t.rest) {e : Expr}
    (h : parse t.regex = .ok e) : ∃ ps, Items t.rest ps ∧
      e = .seqs ((headItems t.head ps).map (·.expr)) ∧ ∀ p ∈ ps, p.depth ≤ depthLimit := by
  rw [regex_eq] at h
  unfold parse at h
  split at h
  · cases h
  · rename_i s hrun
    obtain ⟨hclosed, hfinish⟩ := Except.ite_else_error_eq_ok.mp h
    obtain ⟨hdepth, hok⟩ := Except.ite_else_error_eq_ok.mp hfinish
    cases hok
    obtain ⟨_, _, _, _, _, hread, hstep, hmore⟩ := (run_eq_ok (List.cons_ne_nil _ _) rfl).mp hrun
    cases hread
    cases hstep
    obtain ⟨_, hmore⟩ := (reads_escape rfl t.head _).run_ok hmore
    obtain ⟨ps, hitems, hlevel⟩ := items_of_run hrest rfl rfl hmore (List.isEmpty_iff.mp hclosed)
    have hpush : s.level = Level.pushAll {} (headItems t.head ps) := by
      rw [hlevel]
      simp [headItems, Level.pushAll, Level.push, startLook]
    rw [hpush] at hdepth ⊢
    refine ⟨ps, hitems, finish_pushAll _, fun p hp => ?_⟩
    have hmem : p ∈ headItems t.head ps := List.mem_cons_of_mem _ (List.mem_append_right _ hp)
    exact Nat.le_trans (le_depth_finish hmem) hdepth

/-- A fragment in a template that parses is an expression by itself. -/
theorem parse_of_item {fragment : List Char} {a : State} (hread : Reads {} fragment a [])
    (houter : a.outer = []) (hdepth : a.level.finish.depth + 1 ≤ depthLimit) :
    parse fragment = .ok a.level.finish.expr :=
  parse_of_reads hread houter (Nat.le_of_succ_le hdepth)

end AccessDecision.Template
