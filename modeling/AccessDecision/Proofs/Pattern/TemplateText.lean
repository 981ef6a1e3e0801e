import AccessDecision.Pattern.Template

/-
  How a template splits

  `Template.Splits o c cs t` says without a reader what it is for a text to be the
  template `t`: the text is that of `t`, no literal text holds a delimiter, and in every
  fragment the delimiters balance. `Opened n` is the part of a fragment that the reader
  has seen while `n` delimiters inside of it are still open.

  What is proved:
    1. `step_reading` — with every character the reader goes on to stand for all that
       it has read.
    2. `ofText?_eq_some` — so it finds the template that a text splits into, and there
       is no other.
-/

namespace AccessDecision

/-- In the text every closing delimiter closes an opening one, and none is left open. -/
inductive Balanced (o c : Char) : List Char → Prop where
  | nil : Balanced o c []
  | char {d : Char} {text : List Char} : d ≠ o → d ≠ c → Balanced o c text →
      Balanced o c (d :: text)
  | nest {inner text : List Char} : Balanced o c inner → Balanced o c text →
      Balanced o c (o :: (inner ++ c :: text))

/-- In the text so many opening delimiters are not closed yet. -/
inductive Opened (o c : Char) : Nat → List Char → Prop where
  | balanced {text : List Char} : Balanced o c text → Opened o c 0 text
  | opened {n : Nat} {before text : List Char} : Opened o c n before → Balanced o c text →
      Opened o c (n + 1) (before ++ o :: text)

/-- The text holds neither delimiter. -/
def Undelimited (o c : Char) (text : List Char) : Prop := o ∉ text ∧ c ∉ text

/-- The text is that of the template, whose literal texts hold no delimiter and in whose
fragments the delimiters balance. -/
structure Template.Splits (o c : Char) (cs : List Char) (t : Template) : Prop where
  text : t.text o c = cs
  head : Undelimited o c t.head
  rest : ∀ x ∈ t.rest, Balanced o c x.1 ∧ Undelimited o c x.2

section
variable {o c : Char}

theorem Balanced.append {text more : List Char} (h : Balanced o c text)
    (hmore : Balanced o c more) : Balanced o c (text ++ more) := by
  induction h with
  | nil => exact hmore
  | char ho hc _ ih => exact .char ho hc ih
  | nest hinner _ _ ih =>
    rw [List.cons_append, List.append_assoc]
    exact .nest hinner ih

theorem Opened.append {n : Nat} {text more : List Char} (h : Opened o c n text)
    (hmore : Balanced o c more) : Opened o c n (text ++ more) := by
  cases h with
  | balanced h => exact .balanced (h.append hmore)
  | opened hbefore h =>
    rw [List.append_assoc, List.cons_append]
    exact .opened hbefore (h.append hmore)

/-- A closing delimiter balances what was opened last. -/
theorem Opened.close {n : Nat} {text : List Char} (h : Opened o c (n + 1) text) :
    Opened o c n (text ++ [c]) := by
  cases h with
  | opened hbefore h =>
    rw [List.append_assoc]
    exact hbefore.append (.nest h .nil)

theorem undelimited_concat {text : List Char} {d : Char} (h : Undelimited o c text) (ho : d ≠ o)
    (hc : d ≠ c) : Undelimited o c (text ++ [d]) := by
  constructor
  · rw [List.mem_append, List.mem_singleton, not_or]
    exact ⟨h.1, Ne.symm ho⟩
  · rw [List.mem_append, List.mem_singleton, not_or]
    exact ⟨h.2, Ne.symm hc⟩

namespace Template.Progress

/-! ## What has been read -/

/-- A template with fragments that are done, latest first, in front of it. -/
def resume (t : Template) (done : List (List Char × List Char)) : Template :=
  done.foldl (fun t (literal, fragment) => ⟨literal, (fragment, t.head) :: t.rest⟩) t

theorem assemble_eq (last : List Char) (done : List (List Char × List Char)) :
    assemble last done = resume ⟨last, []⟩ done := rfl

/-- The text of fragments that are done, latest first. -/
def doneText (o c : Char) (done : List (List Char × List Char)) : List Char :=
  done.reverse.flatMap fun (literal, fragment) => literal ++ o :: (fragment ++ [c])

theorem doneText_cons (literal fragment : List Char) (done : List (List Char × List Char)) :
    doneText o c ((literal, fragment) :: done) =
      doneText o c done ++ (literal ++ o :: (fragment ++ [c])) := by
  simp [doneText]

theorem splits_cons {literal fragment cs : List Char} {t : Template} :
    Template.Splits o c cs ⟨literal, (fragment, t.head) :: t.rest⟩ ↔
      ∃ after, cs = literal ++ o :: (fragment ++ [c]) ++ after ∧
        (Undelimited o c literal ∧ Balanced o c fragment) ∧ t.Splits o c after := by
  constructor
  · intro h
    obtain ⟨hfragment, hrest⟩ := List.forall_mem_cons.mp h.rest
    refine ⟨t.text o c, ?_, ⟨h.head, hfragment.1⟩, rfl, hfragment.2, hrest⟩
    rw [← h.text]
    simp [text]
  · intro h
    obtain ⟨after, rfl, ⟨hliteral, hfragment⟩, ht⟩ := h
    refine ⟨?_, hliteral, List.forall_mem_cons.mpr ⟨⟨hfragment, ht.head⟩, ht.rest⟩⟩
    rw [← ht.text]
    simp [text]

theorem splits_resume {t : Template} {done : List (List Char × List Char)} {cs : List Char} :
    (resume t done).Splits o c cs ↔ ∃ after, cs = doneText o c done ++ after ∧
      (∀ x ∈ done, Undelimited o c x.1 ∧ Balanced o c x.2) ∧ t.Splits o c after := by
  induction done generalizing t cs with
  | nil => simp [resume, doneText]
  | cons x done ih =>
    obtain ⟨literal, fragment⟩ := x
    show (resume ⟨literal, (fragment, t.head) :: t.rest⟩ done).Splits o c cs ↔ _
    rw [ih, List.forall_mem_cons, doneText_cons]
    constructor
    · intro h
      obtain ⟨after, rfl, hdone, ht⟩ := h
      obtain ⟨after, rfl, hx, ht⟩ := splits_cons.mp ht
      exact ⟨after, (List.append_assoc _ _ _).symm, ⟨hx, hdone⟩, ht⟩
    · intro h
      obtain ⟨after, rfl, ⟨hx, hdone⟩, ht⟩ := h
      exact ⟨_, List.append_assoc _ _ _, hdone, splits_cons.mpr ⟨after, rfl, hx, ht⟩⟩

theorem splits_literal {literal cs : List Char} :
    Template.Splits o c cs ⟨literal, []⟩ ↔ cs = literal ∧ Undelimited o c literal := by
  constructor
  · intro h
    exact ⟨by rw [← h.text]; simp [text], h.head⟩
  · intro h
    obtain ⟨rfl, hliteral⟩ := h
    exact ⟨by simp [text], hliteral, nofun⟩

/-- Only the last literal text tells templates with the same fragments apart. -/
theorem splits_assemble {last cs : List Char} {done : List (List Char × List Char)} :
    (assemble last done).Splits o c cs ↔ cs = doneText o c done ++ last ∧
      (∀ x ∈ done, Undelimited o c x.1 ∧ Balanced o c x.2) ∧ Undelimited o c last := by
  rw [assemble_eq, splits_resume]
  constructor
  · intro h
    obtain ⟨after, rfl, hdone, ht⟩ := h
    obtain ⟨rfl, hlast⟩ := splits_literal.mp ht
    exact ⟨rfl, hdone, hlast⟩
  · intro h
    obtain ⟨rfl, hdone, hlast⟩ := h
    exact ⟨last, rfl, hdone, splits_literal.mpr ⟨rfl, hlast⟩⟩

/-- The reader stands for all that it has read. -/
inductive Reading (o c : Char) : List Char → Progress → Prop where
  | outside {cs literal current : List Char} {done : List (List Char × List Char)} :
      (assemble current.reverse done).Splits o c cs → Reading o c cs ⟨done, literal, current, 0⟩
  | inside {before literal current : List Char} {done : List (List Char × List Char)} {n : Nat} :
      (assemble literal done).Splits o c before → Opened o c n current.reverse →
      Reading o c (before ++ o :: current.reverse) ⟨done, literal, current, n + 1⟩

theorem reading_start : Reading o c [] start :=
  .outside (splits_assemble.mpr ⟨rfl, nofun, ⟨nofun, nofun⟩⟩)

/-- With every character the reader goes on to stand for all that it has read. -/
theorem step_reading {cs : List Char} {p p' : Progress} {d : Char} (h : Reading o c cs p)
    (hstep : p.step o c d = some p') : Reading o c (cs ++ [d]) p' := by
  unfold step at hstep
  cases h with
  | @outside cs literal current done hread =>
    obtain ⟨rfl, hdone, hcurrent⟩ := splits_assemble.mp hread
    split at hstep
    · rename_i ho
      cases hstep
      rw [ho]
      have hopened : Opened o c 0 ([] : List Char).reverse := .balanced .nil
      exact .inside hread hopened
    · rename_i ho
      split at hstep
      · cases hstep
      · rename_i hc
        cases hstep
        refine .outside (splits_assemble.mpr ⟨?_, hdone, ?_⟩)
        · rw [List.reverse_cons, List.append_assoc]
        · rw [List.reverse_cons]
          exact undelimited_concat hcurrent ho hc
  | @inside before literal current done n hread hopened =>
    -- What is inside goes on with the character.
    have hinside : ∀ {m : Nat}, Opened o c m (current.reverse ++ [d]) →
        Reading o c (before ++ o :: current.reverse ++ [d])
          ⟨done, literal, d :: current, m + 1⟩ := by
      intro m hm
      rw [List.append_assoc, List.cons_append, ← List.reverse_cons]
      rw [← List.reverse_cons] at hm
      exact .inside hread hm
    split at hstep
    · rename_i ho
      cases hstep
      subst ho
      exact hinside (.opened hopened .nil)
    · rename_i ho
      split at hstep
      · rename_i hc
        subst hc
        cases n with
        | zero =>
          cases hstep
          obtain ⟨rfl, hdone, hliteral⟩ := splits_assemble.mp hread
          cases hopened with
          | balanced hbalanced =>
            refine .outside (splits_assemble.mpr ⟨?_, ?_, ⟨nofun, nofun⟩⟩)
            · rw [doneText_cons]
              simp
            · exact List.forall_mem_cons.mpr ⟨⟨hliteral, hbalanced⟩, hdone⟩
        | succ n =>
          cases hstep
          exact hinside hopened.close
      · rename_i hc
        cases hstep
        exact hinside (hopened.append (.char ho hc .nil))

theorem foldlM_reading {cs more : List Char} {p p' : Progress} (h : Reading o c cs p)
    (hfold : more.foldlM (step o c) p = some p') : Reading o c (cs ++ more) p' := by
  induction more generalizing cs p with
  | nil =>
    cases hfold
    rwa [List.append_nil]
  | cons d more ih =>
    obtain ⟨p₁, hstep, hrest⟩ := Option.bind_eq_some_iff.mp hfold
    have := ih (step_reading h hstep) hrest
    rwa [List.append_assoc] at this

/-! ## Reading a template -/

/-- Inside of a fragment balanced text is taken as it is. -/
theorem foldlM_balanced (hne : o ≠ c) {text : List Char} (h : Balanced o c text)
    (done : List (List Char × List Char)) (literal current : List Char) (n : Nat) :
    text.foldlM (step o c) ⟨done, literal, current, n + 1⟩ =
      some ⟨done, literal, text.reverse ++ current, n + 1⟩ := by
  induction h generalizing current n with
  | nil => rfl
  | @char d text ho hc _ ih =>
    have hstep : step o c ⟨done, literal, current, n + 1⟩ d =
        some ⟨done, literal, d :: current, n + 1⟩ := by
      rw [step, if_neg ho, if_neg hc]
    rw [List.foldlM_cons, hstep, Option.bind_eq_bind, Option.bind_some, ih]
    simp
  | @nest inner text _ _ ihinner ih =>
    have hopen : step o c ⟨done, literal, current, n + 1⟩ o =
        some ⟨done, literal, o :: current, n + 2⟩ := if_pos rfl
    have hclose : ∀ current, step o c ⟨done, literal, current, n + 2⟩ c =
        some ⟨done, literal, c :: current, n + 1⟩ := by
      intro current
      rw [step, if_neg (Ne.symm hne), if_pos rfl]
      rfl
    rw [List.foldlM_cons, hopen, Option.bind_eq_bind, Option.bind_some, List.foldlM_append,
      ihinner, Option.bind_eq_bind, Option.bind_some, List.foldlM_cons, hclose,
      Option.bind_eq_bind, Option.bind_some, ih]
    simp

/-- Between the fragments text without delimiters is taken as it is. -/
theorem foldlM_undelimited {text : List Char} (h : Undelimited o c text)
    (done : List (List Char × List Char)) (literal current : List Char) :
    text.foldlM (step o c) ⟨done, literal, current, 0⟩ =
      some ⟨done, literal, text.reverse ++ current, 0⟩ := by
  induction text generalizing current with
  | nil => rfl
  | cons d text ih =>
    obtain ⟨ho, hc⟩ := h
    rw [List.mem_cons, not_or] at ho hc
    have hstep : step o c ⟨done, literal, current, 0⟩ d =
        some ⟨done, literal, d :: current, 0⟩ := by
      rw [step, if_neg (Ne.symm ho.1), if_neg (Ne.symm hc.1)]
    rw [List.foldlM_cons, hstep, Option.bind_eq_bind, Option.bind_some, ih ⟨ho.2, hc.2⟩]
    simp

theorem foldlM_rest (hne : o ≠ c) {rest : List (List Char × List Char)}
    (h : ∀ x ∈ rest, Balanced o c x.1 ∧ Undelimited o c x.2)
    (done : List (List Char × List Char)) (literal current : List Char) :
    ((rest.flatMap fun (fragment, literal) => o :: (fragment ++ c :: literal)).foldlM (step o c)
        ⟨done, literal, current, 0⟩).bind finish =
      some (resume ⟨current.reverse, rest⟩ done) := by
  induction rest generalizing done literal current with
  | nil => rfl
  | cons x rest ih =>
    obtain ⟨fragment, after⟩ := x
    obtain ⟨⟨hfragment, hafter⟩, hrest⟩ := List.forall_mem_cons.mp h
    have hopen : step o c ⟨done, literal, current, 0⟩ o =
        some ⟨done, current.reverse, [], 1⟩ := if_pos rfl
    have hclose : step o c ⟨done, current.reverse, fragment.reverse ++ [], 1⟩ c =
        some ⟨(current.reverse, fragment) :: done, [], [], 0⟩ := by
      rw [step, if_neg (Ne.symm hne), if_pos rfl]
      simp
    have hread : (o :: (fragment ++ c :: after)).foldlM (step o c) ⟨done, literal, current, 0⟩ =
        some ⟨(current.reverse, fragment) :: done, [], after.reverse ++ [], 0⟩ := by
      rw [List.foldlM_cons, hopen, Option.bind_eq_bind, Option.bind_some, List.foldlM_append,
        foldlM_balanced hne hfragment, Option.bind_eq_bind, Option.bind_some, List.foldlM_cons,
        hclose, Option.bind_eq_bind, Option.bind_some, foldlM_undelimited hafter]
    rw [List.flatMap_cons, List.foldlM_append, hread, Option.bind_eq_bind, Option.bind_some,
      ih hrest]
    simp [resume]

end Template.Progress

/-- A text splits into the template that the reader finds. -/
theorem Template.splits_of_ofText? {cs : List Char} {t : Template} (h : ofText? o c cs = some t) :
    t.Splits o c cs := by
  obtain ⟨p, hfold, hfinish⟩ := Option.bind_eq_some_iff.mp h
  have hreading := Progress.foldlM_reading Progress.reading_start hfold
  unfold Progress.finish at hfinish
  split at hfinish
  · cases hfinish
    cases hreading with
    | outside hread => exact hread
    | inside _ _ => contradiction
  · cases hfinish

/-- The reader finds the template that a text splits into, and no other. -/
theorem Template.ofText?_eq_some (hne : o ≠ c) {cs : List Char} {t : Template} :
    ofText? o c cs = some t ↔ t.Splits o c cs := by
  refine ⟨splits_of_ofText?, ?_⟩
  · intro h
    have hrest := Progress.foldlM_rest hne h.rest [] [] t.head.reverse
    rw [ofText?, Progress.start, ← h.text, text, List.foldlM_append,
      Progress.foldlM_undelimited h.head, Option.bind_eq_bind, Option.bind_some, List.append_nil,
      hrest, List.reverse_reverse]
    rfl

end

end AccessDecision
