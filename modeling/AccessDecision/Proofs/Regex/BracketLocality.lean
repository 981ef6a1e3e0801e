import AccessDecision.Proofs.Regex.Locality

/-
  A bracket is closed inside the text it stands in

  Inside a bracket a dollar sign is an item like any other. A bracket that takes the
  sign behind the text is never closed, so a bracket that is read in front of that sign
  ends before it.

  What is proved:
    1. `readSetRange_append` — an item of a bracket is read alike whatever stands behind
       the text, or it takes that sign, or leaves nothing else.
    2. `local_readBracketBody` — a whole bracket is read alike.
-/

namespace AccessDecision.Regex

/-! ## The start of a bracket -/

theorem hyphens_other {cs : List Char} (hcs : ∀ more, cs ≠ '-' :: more) (fuel : Nat)
    (items : List SetItem) : readBracketStart.hyphens {} fuel items cs = (items, cs) := by
  unfold readBracketStart.hyphens
  split
  · exact absurd rfl (hcs _)
  · rfl

theorem hyphens_append (items : List SetItem) (cs : List Char) :
    ∃ items' mid, mid <:+ cs ∧ ∀ fuel T, Ends T → cs.length ≤ fuel →
      readBracketStart.hyphens {} fuel items (cs ++ T) = (items', mid ++ T) := by
  induction cs generalizing items with
  | nil =>
    exact ⟨items, [], List.suffix_refl [], fun fuel T hT _ =>
      hyphens_other (hT.not_head (by decide) (by decide)) fuel items⟩
  | cons c cs ih =>
    by_cases hc : c = '-'
    · subst hc
      obtain ⟨items', mid, hsuffix, hread⟩ := ih (⟨.single '-', 0⟩ :: items)
      refine ⟨items', mid, hsuffix.trans (List.suffix_cons _ _), fun fuel T hT hle => ?_⟩
      obtain ⟨more, rfl⟩ := Nat.exists_eq_add_of_le hle
      rw [List.length_cons, Nat.add_right_comm]
      exact hread _ T hT (Nat.le_add_right _ _)
    · exact ⟨items, c :: cs, List.suffix_refl _, fun fuel T _ _ =>
        hyphens_other (fun more heq => hc (List.cons.inj heq).1) fuel items⟩

/-- What stands behind the sign of a bracket, if there is one. -/
def afterSign (negated : Bool) (cs : List Char) : Except SyntaxError (Bracket × List Char) :=
  match readBracketStart.hyphens {} cs.length [] cs with
  | ([], ']' :: rest) => .ok (⟨negated, none, [⟨.single ']', 0⟩]⟩, rest)
  | (items, rest) => .ok (⟨negated, none, items⟩, rest)

theorem afterSign_append (negated : Bool) (cs : List Char) :
    ∃ b mid, Takes (afterSign negated) cs b mid := by
  obtain ⟨items, mid, hsuffix, hread⟩ := hyphens_append [] cs
  have hread : ∀ T, Ends T → afterSign negated (cs ++ T) =
      match (items, mid ++ T) with
      | ([], ']' :: rest) => .ok (⟨negated, none, [⟨.single ']', 0⟩]⟩, rest)
      | (items, rest) => .ok (⟨negated, none, items⟩, rest) := by
    intro T hT
    rw [afterSign, hread _ T hT (by simp)]
  match items, mid, hsuffix, hread with
  | item :: items, mid, hsuffix, hread => exact ⟨_, mid, hsuffix, fun T hT => hread T hT⟩
  | [], [], hsuffix, hread =>
    refine ⟨⟨negated, none, []⟩, [], hsuffix, fun T hT => (hread T hT).trans ?_⟩
    cases hT <;> rfl
  | [], c :: mid, hsuffix, hread =>
    by_cases hc : c = ']'
    · subst hc
      exact ⟨_, mid, (List.suffix_cons _ _).trans hsuffix, fun T hT => hread T hT⟩
    · refine ⟨⟨negated, none, []⟩, c :: mid, hsuffix, fun T hT => (hread T hT).trans ?_⟩
      split
      · rename_i heq
        exact absurd (List.cons.inj (Prod.mk.inj heq).2).1 hc
      · rename_i heq
        obtain ⟨rfl, rfl⟩ := Prod.mk.inj heq
        rfl

theorem readBracketStart_other {cs : List Char} (hcs : ∀ more, cs ≠ '^' :: more) :
    readBracketStart {} cs = afterSign false cs := by
  rw [readBracketStart, skipBlanks_default]
  split
  rename_i heq
  split at heq
  · exact absurd rfl (hcs _)
  · obtain ⟨rfl, rfl⟩ := Prod.mk.inj heq
    rfl

/-- A bracket starts alike whatever stands behind the text. -/
theorem readBracketStart_append (cs : List Char) :
    ∃ b mid, Takes (readBracketStart {}) cs b mid := by
  by_cases hsign : ∃ more, cs = '^' :: more
  · obtain ⟨more, rfl⟩ := hsign
    obtain ⟨b, mid, hsuffix, htakes⟩ := afterSign_append true more
    exact ⟨b, mid, hsuffix.trans (List.suffix_cons _ _), htakes⟩
  · obtain ⟨b, mid, hsuffix, htakes⟩ := afterSign_append false cs
    refine ⟨b, mid, hsuffix, fun T hT => ?_⟩
    have hother : ∀ more, cs ++ T ≠ '^' :: more := by
      intro more heq
      cases cs with
      | nil => exact hT.not_head (by decide) (by decide) more heq
      | cons c cs => exact hsign ⟨cs, by rw [(List.cons.inj heq).1]⟩
    rw [readBracketStart_other hother, htakes T hT]

/-! ## Classes by name -/

theorem not_mem_of_asciiNamed? {name : List Char} {s : CharSet}
    (h : CharSet.asciiNamed? name = some s) : ')' ∉ name := by
  unfold CharSet.asciiNamed? at h
  split at h <;> first | decide | cases h

/-- What stands behind the sign of a class in brackets and colons. -/
def asciiClass? (negated : Bool) (cs : List Char) : Option (Bool × CharSet × List Char) :=
  match cs.dropWhile (· != ':'), CharSet.asciiNamed? (cs.takeWhile (· != ':')) with
  | ':' :: ']' :: rest, some s => some (negated, s, rest)
  | _, _ => none

theorem asciiClass?_append (negated : Bool) (cs : List Char) :
    (∀ T, Ends T → asciiClass? negated (cs ++ T) = none) ∨
      ∃ s mid, mid <:+ cs ∧ ∀ T, asciiClass? negated (cs ++ T) = some (negated, s, mid ++ T) := by
  by_cases hcolon : ':' ∈ cs
  · obtain ⟨name, more, rfl, hname⟩ := List.eq_append_cons_of_mem hcolon
    have hplain : ∀ c ∈ name, (c != ':') = true :=
      fun c hc => bne_iff_ne.mpr fun h => hname (h ▸ hc)
    have hread : ∀ T, asciiClass? negated (name ++ ':' :: more ++ T) =
        match ':' :: (more ++ T), CharSet.asciiNamed? name with
        | ':' :: ']' :: rest, some s => some (negated, s, rest)
        | _, _ => none := by
      intro T
      rw [asciiClass?, List.append_assoc, List.cons_append, List.dropWhile_append_of_pos hplain,
        List.takeWhile_append_of_pos hplain]
      simp
    cases hnamed : CharSet.asciiNamed? name with
    | none =>
      refine .inl fun T _ => ?_
      rw [hread, hnamed]
      split
      · rename_i heq
        cases heq
      · rfl
    | some s =>
      by_cases hclose : ∃ mid, more = ']' :: mid
      · obtain ⟨mid, rfl⟩ := hclose
        refine .inr ⟨s, mid, ⟨name ++ [':', ']'], by simp⟩, fun T => ?_⟩
        rw [hread, hnamed]
        rfl
      · refine .inl fun T hT => ?_
        rw [hread, hnamed]
        split
        · rename_i rest _ heq _
          cases more with
          | nil => exact absurd (List.cons.inj heq).2 (hT.not_head (by decide) (by decide) rest)
          | cons c more =>
            obtain ⟨rfl, _⟩ := List.cons.inj (List.cons.inj heq).2
            exact absurd ⟨more, rfl⟩ hclose
        · rfl
  · refine .inl fun T hT => ?_
    have hplain : ∀ c ∈ cs, (c != ':') = true := fun c hc => bne_iff_ne.mpr fun h => hcolon (h ▸ hc)
    rw [asciiClass?, List.dropWhile_append_of_pos hplain, List.takeWhile_append_of_pos hplain]
    -- The name would have to go on behind the text, past a closing parenthesis.
    cases hT with
    | nil => rfl
    | dollar => rfl
    | close rest =>
      split
      · rename_i hnamed
        refine absurd ?_ (not_mem_of_asciiNamed? hnamed)
        simp
      · rfl

theorem readAsciiClass?_append (cs : List Char) :
    (∀ T, Ends T → readAsciiClass? (cs ++ T) = none) ∨
      ∃ negated s mid, mid <:+ cs ∧
        ∀ T, Ends T → readAsciiClass? (cs ++ T) = some (negated, s, mid ++ T) := by
  have hother : ∀ cs, (∀ more, cs ≠ ':' :: more) → readAsciiClass? cs = none := by
    intro cs hcs
    unfold readAsciiClass?
    split
    · exact absurd rfl (hcs _)
    · rfl
  have hplain : ∀ cs, (∀ more, cs ≠ '^' :: more) →
      readAsciiClass? (':' :: cs) = asciiClass? false cs := by
    intro cs hcs
    rw [readAsciiClass?]
    · rfl
    · exact fun more heq => hcs more heq
  match cs with
  | [] => exact .inl fun T hT => hother T (hT.not_head (by decide) (by decide))
  | c :: cs =>
    by_cases hc : c = ':'
    · subst hc
      by_cases hsign : ∃ more, cs = '^' :: more
      · obtain ⟨more, rfl⟩ := hsign
        rcases asciiClass?_append true more with hnone | ⟨s, mid, hsuffix, hsome⟩
        · exact .inl hnone
        · exact .inr ⟨true, s, mid,
            hsuffix.trans ((List.suffix_cons _ _).trans (List.suffix_cons _ _)),
            fun T _ => hsome T⟩
      · have hread : ∀ T, Ends T →
            readAsciiClass? (':' :: cs ++ T) = asciiClass? false (cs ++ T) := by
          intro T hT
          refine hplain (cs ++ T) fun more heq => ?_
          cases cs with
          | nil => exact hT.not_head (by decide) (by decide) more heq
          | cons c cs => exact hsign ⟨cs, by rw [(List.cons.inj heq).1]⟩
        rcases asciiClass?_append false cs with hnone | ⟨s, mid, hsuffix, hsome⟩
        · exact .inl fun T hT => (hread T hT).trans (hnone T hT)
        · exact .inr ⟨false, s, mid, hsuffix.trans (List.suffix_cons _ _),
            fun T hT => (hread T hT).trans (hsome T)⟩
    · exact .inl fun T _ => hother _ fun more heq => hc (List.cons.inj heq).1

/-! ## The items of a bracket -/

section
variable {flags : Flags}

/-- A boundary is an assertion, which no bracket takes. -/
theorem look_of_boundary {c : Char} (hc : Escape.ofChar c = .boundary) {cs r : List Char}
    {a : Escaped} (h : readEscape flags (c :: cs) = .ok (a, r)) : ∃ l, a = .look l := by
  rw [readEscape_cons, hc] at h
  obtain ⟨⟨l, rest⟩, _, ha⟩ := Except.map_eq_ok.mp h
  cases ha
  exact ⟨l, rfl⟩

/-- One end of a range is read alike whatever stands behind the text, unless it is
the sign behind the text itself. -/
theorem readSetEnd_append (h : flags.ignoreBlanks = false) {cs r : List Char} {a : Escaped}
    (hread : readSetEnd flags (cs ++ ['$']) = .ok (a, r)) (hlook : ∀ l, a ≠ .look l) :
    r = [] ∨
      ∃ mid, r = mid ++ ['$'] ∧ mid.length < cs.length ∧ Takes (readSetEnd flags) cs a mid := by
  match cs, hread with
  | [], hread =>
    cases hread
    exact .inl rfl
  | c :: cs, hread =>
    by_cases hc : c = '\\'
    · subst hc
      match cs, hread with
      | [], hread =>
        cases hread
        exact .inl rfl
      | d :: cs, hread =>
        have hlocal : LocalAt (readEscape flags) (d :: cs) := by
          refine local_readEscape h d fun hd => ?_
          obtain ⟨l, hl⟩ := look_of_boundary hd hread
          exact absurd hl (hlook l)
        obtain ⟨mid, hmid, hsuffix, htakes⟩ := hlocal a r hread
        refine .inr ⟨mid, hmid, ?_, hsuffix.trans (List.suffix_cons _ _), htakes⟩
        exact Nat.lt_succ_of_le hsuffix.length_le
    · have hplain : ∀ T, readSetEnd flags (c :: cs ++ T) = .ok (.char c, cs ++ T) := by
        intro T
        rw [List.cons_append, readSetEnd]
        exact hc
      rw [hplain] at hread
      cases hread
      exact .inr ⟨cs, rfl, Nat.lt_succ_self _, List.suffix_cons _ _, fun T _ => hplain T⟩

/-- The range up to its other end, which is read already. -/
def closeRange (flags : Flags) (first : Escaped) (r : Escaped × List Char) :
    Except SyntaxError (CharSet × List Char) :=
  rangeEnd flags first >>= fun lo => rangeEnd flags r.1 >>= fun hi =>
    if lo ≤ hi then .ok (.range lo hi, r.2) else .error .classRangeInvalid

theorem closeRange_eq_ok {first last : Escaped} {rest left : List Char} {s : CharSet} :
    closeRange flags first (last, rest) = .ok (s, left) ↔ left = rest ∧ ∃ lo hi,
      rangeEnd flags first = .ok lo ∧ rangeEnd flags last = .ok hi ∧ lo ≤ hi ∧
        s = .range lo hi := by
  constructor
  · intro h
    obtain ⟨lo, hlo, hend⟩ := Except.bind_eq_ok.mp h
    obtain ⟨hi, hhi, hcheck⟩ := Except.bind_eq_ok.mp hend
    obtain ⟨hle, hok⟩ := Except.ite_else_error_eq_ok.mp hcheck
    cases hok
    exact ⟨rfl, lo, hi, hlo, hhi, hle, rfl⟩
  · intro h
    obtain ⟨rfl, lo, hi, hlo, hhi, hle, rfl⟩ := h
    rw [closeRange, hlo, Except.ok_bind]
    show rangeEnd flags last >>= _ = _
    rw [hhi, Except.ok_bind, if_pos hle]

/-- What stands behind the first end of a range, or behind a single item. -/
def rangeRest (flags : Flags) (first : Escaped) (cs : List Char) :
    Except SyntaxError (CharSet × List Char) :=
  match cs with
  | [] => .error .classUnclosed
  | '-' :: more =>
    if more.head? = some ']' ∨ more.head? = some '-' then
      readSetRange.item flags first >>= fun s => .ok (s, '-' :: more)
    else
      readSetEnd flags more >>= closeRange flags first
  | rest => readSetRange.item flags first >>= fun s => .ok (s, rest)

theorem readSetRange_eq (h : flags.ignoreBlanks = false) (cs : List Char) :
    readSetRange flags cs = readSetEnd flags cs >>= fun r => rangeRest flags r.1 r.2 := by
  rw [readSetRange]
  refine bind_congr fun r => ?_
  simp only [skipBlanks_plain h, peekPastBlanks_plain h]
  rfl

theorem rangeRest_hyphen (first : Escaped) (more : List Char) :
    rangeRest flags first ('-' :: more) =
      if more.head? = some ']' ∨ more.head? = some '-' then
        readSetRange.item flags first >>= fun s => .ok (s, '-' :: more)
      else
        readSetEnd flags more >>= closeRange flags first := rfl

theorem rangeRest_other (first : Escaped) {c : Char} (hc : c ≠ '-') (rest : List Char) :
    rangeRest flags first (c :: rest) =
      readSetRange.item flags first >>= fun s => .ok (s, c :: rest) := by
  unfold rangeRest
  split
  · rename_i heq
    cases heq
  · rename_i heq
    exact absurd (List.cons.inj heq).1 hc
  · rfl

/-- No assertion is an item of a bracket or an end of a range. -/
theorem not_look_of_rangeRest {first : Escaped} {cs r : List Char} {s : CharSet}
    (h : rangeRest flags first cs = .ok (s, r)) (l : Look) : first ≠ .look l := by
  intro hl
  subst hl
  match cs, h with
  | [], h => cases h
  | c :: cs, h =>
    by_cases hc : c = '-'
    · subst hc
      rw [rangeRest_hyphen] at h
      split at h
      · cases h
      · obtain ⟨_, _, hlo⟩ := Except.bind_eq_ok.mp h
        cases hlo
    · rw [rangeRest_other _ hc] at h
      cases h

/-- Behind a hyphen in the text a range is read alike whatever stands behind the text,
unless its other end is the sign behind the text. -/
theorem rangeRest_hyphen_append (h : flags.ignoreBlanks = false) {first : Escaped} {d : Char}
    {cs r : List Char} {s : CharSet}
    (hread : rangeRest flags first ('-' :: d :: cs ++ ['$']) = .ok (s, r)) :
    r = [] ∨ r = ['$'] ∨
      ∃ mid, mid ≠ [] ∧ r = mid ++ ['$'] ∧
        Takes (rangeRest flags first) ('-' :: d :: cs) s mid := by
  have hhead : ∀ T, rangeRest flags first ('-' :: d :: cs ++ T) =
      if d = ']' ∨ d = '-' then
        readSetRange.item flags first >>= fun s => .ok (s, '-' :: (d :: cs ++ T))
      else readSetEnd flags (d :: cs ++ T) >>= closeRange flags first := by
    intro T
    rw [List.cons_append, rangeRest_hyphen]
    simp only [List.cons_append, List.head?_cons, Option.some.injEq]
  rw [hhead] at hread
  split at hread
  · rename_i hhyphen
    obtain ⟨s', hs', hok⟩ := Except.bind_eq_ok.mp hread
    cases hok
    refine .inr (.inr ⟨'-' :: d :: cs, nofun, rfl, List.suffix_refl _, fun T _ => ?_⟩)
    rw [hhead, if_pos hhyphen, hs']
    rfl
  · rename_i hrange
    obtain ⟨⟨last, r'⟩, hlast, hclose⟩ := Except.bind_eq_ok.mp hread
    obtain ⟨rfl, lo, hi, hlo, hhi, hle, rfl⟩ := closeRange_eq_ok.mp hclose
    have hlook : ∀ l, last ≠ .look l := by
      intro l hl
      subst hl
      cases hhi
    rcases readSetEnd_append h hlast hlook with hnil | ⟨mid, hmid, _, hsuffix, htakes⟩
    · exact .inl hnil
    · cases mid with
      | nil => exact .inr (.inl hmid)
      | cons e mid =>
        have hleft : e :: mid <:+ '-' :: d :: cs := hsuffix.trans (List.suffix_cons _ _)
        refine .inr (.inr ⟨e :: mid, nofun, hmid, hleft, fun T hT => ?_⟩)
        rw [hhead, if_neg hrange, htakes T hT, Except.ok_bind]
        exact closeRange_eq_ok.mpr ⟨rfl, lo, hi, hlo, hhi, hle, rfl⟩

theorem rangeRest_append (h : flags.ignoreBlanks = false) {first : Escaped} {cs r : List Char}
    {s : CharSet} (hread : rangeRest flags first (cs ++ ['$']) = .ok (s, r)) :
    r = [] ∨ r = ['$'] ∨
      ∃ mid, mid ≠ [] ∧ r = mid ++ ['$'] ∧ Takes (rangeRest flags first) cs s mid := by
  match cs, hread with
  | [], hread =>
    rw [List.nil_append, rangeRest_other _ (by decide)] at hread
    obtain ⟨_, _, hok⟩ := Except.bind_eq_ok.mp hread
    cases hok
    exact .inr (.inl rfl)
  | c :: cs, hread =>
    by_cases hc : c = '-'
    · subst hc
      match cs, hread with
      | [], hread =>
        -- The range would end with the sign behind the text.
        rw [List.cons_append, rangeRest_hyphen, if_neg (by decide)] at hread
        obtain ⟨⟨last, r'⟩, hr', hclose⟩ := Except.bind_eq_ok.mp hread
        cases hr'
        exact .inl (closeRange_eq_ok.mp hclose).1
      | d :: cs, hread => exact rangeRest_hyphen_append h hread
    · rw [List.cons_append, rangeRest_other _ hc] at hread
      obtain ⟨s', hs', hok⟩ := Except.bind_eq_ok.mp hread
      cases hok
      refine .inr (.inr ⟨c :: cs, nofun, rfl, List.suffix_refl _, fun T _ => ?_⟩)
      rw [List.cons_append, rangeRest_other _ hc, hs']
      rfl

/-- An item of a bracket is read alike whatever stands behind the text, unless the
bracket cannot be closed behind it. -/
theorem readSetRange_append (h : flags.ignoreBlanks = false) {cs r : List Char} {s : CharSet}
    (hread : readSetRange flags (cs ++ ['$']) = .ok (s, r)) :
    r = [] ∨ r = ['$'] ∨
      ∃ mid, r = mid ++ ['$'] ∧ mid.length < cs.length ∧ Takes (readSetRange flags) cs s mid := by
  rw [readSetRange_eq h] at hread
  obtain ⟨⟨first, r'⟩, hfirst, hrest⟩ := Except.bind_eq_ok.mp hread
  rcases readSetEnd_append h hfirst (not_look_of_rangeRest hrest) with
    rfl | ⟨mid', rfl, hlength, hsuffix', htakes'⟩
  · cases hrest
  · rcases rangeRest_append h hrest with hnil | hdollar | ⟨mid, _, hmid, hsuffix, htakes⟩
    · exact .inl hnil
    · exact .inr (.inl hdollar)
    · refine .inr (.inr ⟨mid, hmid, Nat.lt_of_le_of_lt hsuffix.length_le hlength,
        hsuffix.trans hsuffix', fun T hT => ?_⟩)
      rw [readSetRange_eq h, htakes' T hT]
      exact htakes T hT

/-! ## Whole brackets -/

/-- The operator that a sign stands for when it is doubled. -/
def opSign? : Char → Option SetOp
  | '&' => some .inter
  | '-' => some .diff
  | '~' => some .symDiff
  | _ => none

/-- The text goes on with an item: it neither ends the bracket nor opens another, and
no operator stands there. -/
def StartsItem (cs : List Char) : Prop :=
  ∃ c rest, cs = c :: rest ∧ c ≠ '[' ∧ c ≠ ']' ∧ (opSign? c = none ∨ rest.head? ≠ some c)

theorem readBracket_open (h : flags.ignoreBlanks = false) (fuel : Nat) (b : Bracket)
    (rest : List Char) :
    readBracket flags (fuel + 1) b ('[' :: rest) =
      match readAsciiClass? rest with
      | some (negated, s, rest) =>
        checkText flags (CharSet.negateIf negated (foldUnder flags s)) >>= fun s =>
          readBracket flags fuel (b.pushSet s) rest
      | none => readBracketStart {} rest >>= fun r => readBracket flags fuel r.1 r.2 >>= fun r =>
          readBracket flags fuel (b.push r.1) r.2 := by
  rw [readBracket, skipBlanks_plain h, ← readBracketStart_plain h]
  rfl

theorem readBracket_close (h : flags.ignoreBlanks = false) (fuel : Nat) (b : Bracket)
    (rest : List Char) :
    readBracket flags (fuel + 1) b (']' :: rest) = b.close flags >>= fun s => .ok (s, rest) := by
  rw [readBracket, skipBlanks_plain h]
  rfl

theorem readBracket_op (h : flags.ignoreBlanks = false) {c : Char} {op : SetOp}
    (hc : opSign? c = some op) (fuel : Nat) (b : Bracket) (rest : List Char) :
    readBracket flags (fuel + 1) b (c :: c :: rest) =
      readBracket flags fuel (b.pushOp flags op) rest := by
  unfold opSign? at hc
  rw [readBracket, skipBlanks_plain h]
  split at hc
  all_goals cases hc
  all_goals rfl

theorem readBracket_item (h : flags.ignoreBlanks = false) {cs : List Char} (hcs : StartsItem cs)
    (fuel : Nat) (b : Bracket) :
    readBracket flags (fuel + 1) b cs = readSetRange flags cs >>= fun r =>
      readBracket flags fuel (b.pushSet r.1) r.2 := by
  obtain ⟨c, rest, rfl, hopen, hclose, hop⟩ := hcs
  rw [readBracket, skipBlanks_plain h]
  split
  · rename_i heq
    cases heq
  · rename_i heq
    exact absurd (List.cons.inj heq).1 hopen
  · rename_i heq
    exact absurd (List.cons.inj heq).1 hclose
  · rename_i heq
    obtain ⟨rfl, rfl⟩ := List.cons.inj heq
    rcases hop with hop | hop
    · cases hop
    · exact absurd rfl hop
  · rename_i heq
    obtain ⟨rfl, rfl⟩ := List.cons.inj heq
    rcases hop with hop | hop
    · cases hop
    · exact absurd rfl hop
  · rename_i heq
    obtain ⟨rfl, rfl⟩ := List.cons.inj heq
    rcases hop with hop | hop
    · cases hop
    · exact absurd rfl hop
  · rfl

/-- A bracket is not closed by nothing, nor by a dollar sign. -/
theorem readBracket_unclosed (h : flags.ignoreBlanks = false) {cs : List Char}
    (hcs : cs = [] ∨ cs = ['$']) (fuel : Nat) (b : Bracket) (r : SetItem × List Char) :
    readBracket flags fuel b cs ≠ .ok r := by
  intro hread
  cases fuel with
  | zero => cases hread
  | succ fuel =>
    rcases hcs with rfl | rfl
    · rw [readBracket, skipBlanks_plain h] at hread
      cases hread
    · rw [readBracket_item h ⟨'$', [], rfl, by decide, by decide, .inl rfl⟩, readSetRange_eq h]
        at hread
      cases hread

/-- Where an item follows in front of a dollar sign, it follows whatever stands behind
the text. -/
theorem StartsItem.append {cs : List Char} (hcs : cs ≠ []) (h : StartsItem (cs ++ ['$']))
    {T : List Char} (hT : Ends T) : StartsItem (cs ++ T) := by
  obtain ⟨c, rest, heq, hopen, hclose, hop⟩ := h
  match cs, hcs with
  | d :: cs, _ =>
    obtain ⟨rfl, rfl⟩ := List.cons.inj heq
    refine ⟨d, cs ++ T, rfl, hopen, hclose, ?_⟩
    cases cs with
    | nil =>
      -- What stands behind the text is no sign of an operator.
      cases hT with
      | nil => exact .inr nofun
      | dollar => exact hop
      | close rest =>
        by_cases hd : d = ')'
        · exact .inl (hd ▸ rfl)
        · exact .inr fun hhead => hd (Option.some.inj hhead).symm
    | cons e cs => exact hop

/-- With so much fuel a bracket ends inside the text, and is read alike with any fuel
that covers the text, whatever stands behind it. -/
def EndsInside (flags : Flags) (fuel : Nat) : Prop :=
  ∀ b cs x r, readBracket flags fuel b (cs ++ ['$']) = .ok (x, r) →
    ∃ mid, r = mid ++ ['$'] ∧ mid <:+ cs ∧ ∀ fuel' T, Ends T → cs.length < fuel' →
      readBracket flags fuel' b (cs ++ T) = .ok (x, mid ++ T)

section
variable {fuel : Nat} {b : Bracket} {cs r : List Char} {x : SetItem}

/-- A class or a bracket inside a bracket. -/
theorem endsInside_open (h : flags.ignoreBlanks = false) (ih : EndsInside flags fuel)
    (hread : readBracket flags (fuel + 1) b ('[' :: cs ++ ['$']) = .ok (x, r)) :
    ∃ mid, r = mid ++ ['$'] ∧ mid <:+ cs ∧ ∀ fuel' T, Ends T → cs.length < fuel' →
      readBracket flags (fuel' + 1) b ('[' :: cs ++ T) = .ok (x, mid ++ T) := by
  rw [List.cons_append, readBracket_open h] at hread
  rcases readAsciiClass?_append cs with hnone | ⟨negated, s, mid₁, hsuffix₁, hsome⟩
  · obtain ⟨inner, mid₁, hsuffix₁, hstart⟩ := readBracketStart_append cs
    rw [hnone _ .dollar, hstart _ .dollar] at hread
    have hread : readBracket flags fuel inner (mid₁ ++ ['$']) >>= _ = .ok (x, r) := hread
    obtain ⟨⟨item, r₂⟩, hitem, hrest⟩ := Except.bind_eq_ok.mp hread
    obtain ⟨mid₂, rfl, hsuffix₂, htakes₂⟩ := ih _ _ _ _ hitem
    obtain ⟨mid, hmid, hsuffix, htakes⟩ := ih _ _ _ _ hrest
    have hinner := hsuffix₂.trans hsuffix₁
    refine ⟨mid, hmid, hsuffix.trans hinner, fun fuel' T hT hlt => ?_⟩
    rw [List.cons_append, readBracket_open h, hnone T hT, hstart T hT]
    show readBracket flags fuel' inner (mid₁ ++ T) >>= _ = _
    rw [htakes₂ fuel' T hT (Nat.lt_of_le_of_lt hsuffix₁.length_le hlt)]
    exact htakes fuel' T hT (Nat.lt_of_le_of_lt hinner.length_le hlt)
  · rw [hsome _ .dollar] at hread
    obtain ⟨s', hs', hrest⟩ := Except.bind_eq_ok.mp hread
    obtain ⟨mid, hmid, hsuffix, htakes⟩ := ih _ _ _ _ hrest
    refine ⟨mid, hmid, hsuffix.trans hsuffix₁, fun fuel' T hT hlt => ?_⟩
    rw [List.cons_append, readBracket_open h, hsome T hT]
    show checkText flags _ >>= _ = _
    rw [hs']
    exact htakes fuel' T hT (Nat.lt_of_le_of_lt hsuffix₁.length_le hlt)

/-- An item of a bracket and what follows it. -/
theorem endsInside_item (h : flags.ignoreBlanks = false) (ih : EndsInside flags fuel)
    (hcs : cs ≠ []) (hitem : StartsItem (cs ++ ['$']))
    (hread : readBracket flags (fuel + 1) b (cs ++ ['$']) = .ok (x, r)) :
    ∃ mid, r = mid ++ ['$'] ∧ mid <:+ cs ∧ ∀ fuel' T, Ends T → cs.length < fuel' + 1 →
      readBracket flags (fuel' + 1) b (cs ++ T) = .ok (x, mid ++ T) := by
  rw [readBracket_item h hitem] at hread
  obtain ⟨⟨s, r'⟩, hs, hrest⟩ := Except.bind_eq_ok.mp hread
  rcases readSetRange_append h hs with hnil | hdollar | ⟨mid', rfl, hlength, hsuffix', htakes'⟩
  · exact absurd hrest (readBracket_unclosed h (.inl hnil) _ _ _)
  · exact absurd hrest (readBracket_unclosed h (.inr hdollar) _ _ _)
  · obtain ⟨mid, hmid, hsuffix, htakes⟩ := ih _ _ _ _ hrest
    refine ⟨mid, hmid, hsuffix.trans hsuffix', fun fuel' T hT hlt => ?_⟩
    rw [readBracket_item h (hitem.append hcs hT), htakes' T hT]
    exact htakes fuel' T hT (by omega)

end

/-- By what stands at its start, the rest of a bracket ends inside the text. -/
theorem endsInside (h : flags.ignoreBlanks = false) (fuel : Nat) : EndsInside flags fuel := by
  induction fuel with
  | zero => exact fun _ _ _ _ hread => nomatch hread
  | succ fuel ih =>
    intro b cs x r hread
    -- Whatever a round reads, the rounds behind it have fuel for what it leaves.
    have hfuel : ∀ {c : Char} {cs : List Char} {fuel' : Nat}, (c :: cs).length < fuel' →
        ∃ more, fuel' = more + 1 ∧ cs.length < more := by
      intro c cs fuel' hlt
      rw [List.length_cons] at hlt
      exact ⟨fuel' - 1, by omega, by omega⟩
    match cs, hread with
    | [], hread => exact absurd hread (readBracket_unclosed h (.inr rfl) _ b _)
    | c :: cs, hread =>
      by_cases hopen : c = '['
      · subst hopen
        obtain ⟨mid, hmid, hsuffix, htakes⟩ := endsInside_open h ih hread
        refine ⟨mid, hmid, hsuffix.trans (List.suffix_cons _ _), fun fuel' T hT hlt => ?_⟩
        obtain ⟨more, rfl, hmore⟩ := hfuel hlt
        exact htakes more T hT hmore
      by_cases hclose : c = ']'
      · subst hclose
        rw [List.cons_append, readBracket_close h] at hread
        obtain ⟨s, hs, hok⟩ := Except.bind_eq_ok.mp hread
        cases hok
        refine ⟨cs, rfl, List.suffix_cons _ _, fun fuel' T hT hlt => ?_⟩
        obtain ⟨more, rfl, _⟩ := hfuel hlt
        rw [List.cons_append, readBracket_close h, hs]
        rfl
      by_cases hitem : opSign? c = none ∨ (cs ++ ['$']).head? ≠ some c
      · obtain ⟨mid, hmid, hsuffix, htakes⟩ :=
          endsInside_item h ih (List.cons_ne_nil c cs) ⟨c, _, rfl, hopen, hclose, hitem⟩ hread
        refine ⟨mid, hmid, hsuffix, fun fuel' T hT hlt => ?_⟩
        obtain ⟨more, rfl, hmore⟩ := hfuel hlt
        exact htakes more T hT hlt
      · obtain ⟨hsign, hhead⟩ := not_or.mp hitem
        obtain ⟨op, hop⟩ := Option.ne_none_iff_exists'.mp hsign
        match cs, Decidable.not_not.mp hhead, hread with
        | [], hhead, _ => exact absurd (Option.some.inj hhead ▸ rfl) hsign
        | d :: cs, hhead, hread =>
          obtain rfl : d = c := Option.some.inj hhead
          rw [List.cons_append, List.cons_append, readBracket_op h hop] at hread
          obtain ⟨mid, hmid, hsuffix, htakes⟩ := ih _ _ _ _ hread
          refine ⟨mid, hmid, hsuffix.trans ((List.suffix_cons _ _).trans (List.suffix_cons _ _)),
            fun fuel' T hT hlt => ?_⟩
          obtain ⟨more, rfl, hmore⟩ := hfuel hlt
          rw [List.cons_append, List.cons_append, readBracket_op h hop]
          exact htakes more T hT (Nat.lt_of_succ_lt hmore)

/-- A bracket from behind its opening sign. -/
def readBracketBody (flags : Flags) (cs : List Char) : Except SyntaxError (SetItem × List Char) :=
  readBracketStart flags cs >>= fun r => readBracket flags (r.2.length + 1) r.1 r.2

theorem local_readBracketBody (h : flags.ignoreBlanks = false) : Local (readBracketBody flags) := by
  intro cs x r hread
  obtain ⟨b, mid', hsuffix', hstart⟩ := readBracketStart_append cs
  have hbody : ∀ T, Ends T → readBracketBody flags (cs ++ T) =
      readBracket flags ((mid' ++ T).length + 1) b (mid' ++ T) := by
    intro T hT
    rw [readBracketBody, readBracketStart_plain h, hstart T hT]
    rfl
  rw [hbody _ .dollar] at hread
  obtain ⟨mid, hmid, hsuffix, htakes⟩ := endsInside h _ _ _ _ _ hread
  refine ⟨mid, hmid, hsuffix.trans hsuffix', fun T hT => ?_⟩
  rw [hbody T hT]
  exact htakes _ T hT (by simp only [List.length_append]; omega)

end

end AccessDecision.Regex
