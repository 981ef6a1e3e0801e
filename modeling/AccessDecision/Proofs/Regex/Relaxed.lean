import AccessDecision.Proofs.Regex.TokenLocality

/-
  What flags do not decide

  Flags decide what a token means and whether it is allowed at all, but not where it
  ends. Under the flags that are in force at the start everything is allowed that is
  allowed under others, so a text can be followed under those alone where only its
  groups matter.

  What is proved:
    1. `readToken_relaxed` — while blanks count, what is a token under some flags is one
       under the first flags, as long and with the same effect on the groups.
    2. `blanksCount_readToken` — blanks go on counting behind a token unless it holds
       the flag that ends that.
-/

namespace AccessDecision.Regex

/-! ## Escape sequences -/

/-- The same kind of escape sequence, and the same character. -/
def Escaped.Like : Escaped → Escaped → Prop
  | .char c, .char d => c = d
  | .set _, .set _ => True
  | .look _, .look _ => True
  | _, _ => False

section
variable {flags : Flags}

theorem propertySet_relaxed {negated : Bool} {name : List Char} {s : CharSet}
    (hset : propertySet flags negated name = .ok s) :
    ∃ s', propertySet {} negated name = .ok s' := by
  unfold propertySet at hset ⊢
  dsimp only at hset ⊢
  split at hset
  · cases hset
  · exact ⟨_, rfl⟩

theorem readProperty_relaxed (h : flags.ignoreBlanks = false) {negated : Bool} {cs r : List Char}
    {s : CharSet} (hread : readProperty flags negated cs = .ok (s, r)) :
    ∃ s', readProperty {} negated cs = .ok (s', r) := by
  unfold readProperty at hread ⊢
  simp only [skipBlanks_plain h, readBraced_plain h, skipBlanks_default] at hread ⊢
  split at hread
  · cases hread
  · obtain ⟨⟨name, rest⟩, hname, hset⟩ := Except.bind_eq_ok.mp hread
    obtain ⟨s, hs, hok⟩ := Except.bind_eq_ok.mp hset
    cases hok
    obtain ⟨s', hs'⟩ := propertySet_relaxed hs
    refine ⟨s', ?_⟩
    dsimp only
    rw [hname, Except.ok_bind]
    show propertySet {} negated name >>= _ = _
    rw [hs']
    rfl
  · cases hread
  · obtain ⟨s, hs, hok⟩ := Except.bind_eq_ok.mp hread
    cases hok
    obtain ⟨s', hs'⟩ := propertySet_relaxed hs
    exact ⟨s', by rw [hs']; rfl⟩

theorem readCode_relaxed (h : flags.ignoreBlanks = false) {digits : Nat} {cs r : List Char}
    {c : Char} (hread : readCode flags digits cs = .ok (c, r)) :
    readCode {} digits cs = .ok (c, r) := by
  unfold readCode at hread ⊢
  simp only [skipBlanks_plain h, readHexBraced_plain h, readHexDigits_plain h, skipBlanks_default]
    at hread ⊢
  split at hread
  · cases hread
  · exact hread
  · obtain ⟨⟨n, rest⟩, hn, hcode⟩ := Except.bind_eq_ok.mp hread
    obtain ⟨d, hd, hcheck⟩ := Except.bind_eq_ok.mp hcode
    obtain ⟨_, hok⟩ := Except.ite_error_eq_ok.mp hcheck
    rw [hn, Except.ok_bind]
    show charOfCode n >>= _ = _
    rw [hd, Except.ok_bind]
    simpa using hok

theorem specialBoundary_relaxed {ascii : Bool} {name : List Char} {l : Look}
    (hname : specialBoundary ascii name = .ok l) : ∃ l', specialBoundary false name = .ok l' := by
  unfold specialBoundary at hname ⊢
  split at hname
  all_goals first | exact ⟨_, rfl⟩ | cases hname

theorem readBoundary_relaxed (h : flags.ignoreBlanks = false) {cs r : List Char} {l : Look}
    (hread : readBoundary flags cs = .ok (l, r)) : ∃ l', readBoundary {} cs = .ok (l', r) := by
  by_cases hbrace : ∃ more, cs = '\x7b' :: more
  · obtain ⟨more, rfl⟩ := hbrace
    cases more with
    | nil =>
      rw [readBoundary, skipBlanks_plain h] at hread
      cases hread
    | cons c more =>
      by_cases hc : isBoundaryChar c = true
      · rw [readBoundary_special h hc] at hread
        rw [readBoundary_special rfl hc]
        generalize readBoundaryName {} (more.length + 1) [] (c :: more) = named at hread ⊢
        obtain ⟨name, rest⟩ := named
        by_cases hclose : ∃ left, rest = '\x7d' :: left
        · obtain ⟨left, rfl⟩ := hclose
          obtain ⟨l', hl', hok⟩ := Except.bind_eq_ok.mp hread
          cases hok
          obtain ⟨l'', hl''⟩ := specialBoundary_relaxed hl'
          refine ⟨l'', ?_⟩
          show specialBoundary false name >>= _ = _
          rw [hl'']
          rfl
        · unfold closeBoundary at hread
          dsimp only at hread
          split at hread
          · exact absurd ⟨_, rfl⟩ hclose
          · cases hread
      · have hc := Bool.eq_false_iff.mpr hc
        rw [readBoundary_brace h hc] at hread
        cases hread
        exact ⟨_, readBoundary_brace rfl hc more⟩
  · have hother : ∀ more, cs ≠ '\x7b' :: more := fun more heq => hbrace ⟨more, heq⟩
    rw [readBoundary_other hother] at hread
    cases hread
    exact ⟨_, readBoundary_other hother⟩

theorem readEscape_relaxed (h : flags.ignoreBlanks = false) {cs r : List Char} {a : Escaped}
    (hread : readEscape flags cs = .ok (a, r)) :
    ∃ a', readEscape {} cs = .ok (a', r) ∧ a.Like a' := by
  cases cs with
  | nil => cases hread
  | cons c cs =>
    rw [readEscape_cons] at hread ⊢
    cases hform : Escape.ofChar c with
    | bad e =>
      rw [hform] at hread
      cases hread
    | char d =>
      rw [hform] at hread
      cases hread
      exact ⟨_, rfl, rfl⟩
    | letter d =>
      rw [hform] at hread
      obtain ⟨s, _, hok⟩ := Except.map_eq_ok.mp hread
      cases hok
      exact ⟨_, rfl, trivial⟩
    | look l =>
      rw [hform] at hread
      cases hread
      exact ⟨_, rfl, trivial⟩
    | code digits =>
      rw [hform] at hread
      obtain ⟨⟨d, rest⟩, hd, hok⟩ := Except.map_eq_ok.mp hread
      cases hok
      exact ⟨_, Except.map_eq_ok.mpr ⟨_, readCode_relaxed h hd, rfl⟩, rfl⟩
    | property negated =>
      rw [hform] at hread
      obtain ⟨⟨s, rest⟩, hs, hok⟩ := Except.map_eq_ok.mp hread
      cases hok
      obtain ⟨s', hs'⟩ := readProperty_relaxed h hs
      exact ⟨_, Except.map_eq_ok.mpr ⟨_, hs', rfl⟩, trivial⟩
    | boundary =>
      rw [hform] at hread
      obtain ⟨⟨l, rest⟩, hl, hok⟩ := Except.map_eq_ok.mp hread
      cases hok
      obtain ⟨l', hl'⟩ := readBoundary_relaxed h hl
      exact ⟨_, Except.map_eq_ok.mpr ⟨_, hl', rfl⟩, trivial⟩

/-! ## Brackets -/

theorem readSetEnd_relaxed (h : flags.ignoreBlanks = false) {cs r : List Char} {a : Escaped}
    (hread : readSetEnd flags cs = .ok (a, r)) :
    ∃ a', readSetEnd {} cs = .ok (a', r) ∧ a.Like a' := by
  unfold readSetEnd at hread ⊢
  split at hread
  · cases hread
  · exact readEscape_relaxed h hread
  · cases hread
    exact ⟨_, rfl, rfl⟩

theorem rangeEnd_relaxed {a a' : Escaped} {c : Char} (hlike : a.Like a')
    (hend : rangeEnd flags a = .ok c) : rangeEnd {} a' = .ok c := by
  match a, a', hlike, hend with
  | .char d, .char _, rfl, hend =>
    obtain ⟨_, hok⟩ := Except.ite_error_eq_ok.mp hend
    cases hok
    rfl
  | .set _, .set _, _, hend => cases hend
  | .look _, .look _, _, hend => cases hend

theorem item_relaxed {a a' : Escaped} {s : CharSet} (hlike : a.Like a')
    (hitem : readSetRange.item flags a = .ok s) : ∃ s', readSetRange.item {} a' = .ok s' := by
  match a, a', hlike, hitem with
  | .char d, .char _, rfl, _ => exact ⟨_, rfl⟩
  | .set _, .set _, _, _ => exact ⟨_, rfl⟩
  | .look _, .look _, _, hitem => cases hitem

theorem rangeRest_relaxed (h : flags.ignoreBlanks = false) {a a' : Escaped} {cs r : List Char}
    {s : CharSet} (hlike : a.Like a') (hread : rangeRest flags a cs = .ok (s, r)) :
    ∃ s', rangeRest {} a' cs = .ok (s', r) := by
  match cs, hread with
  | [], hread => cases hread
  | c :: cs, hread =>
    by_cases hc : c = '-'
    · subst hc
      rw [rangeRest_hyphen] at hread ⊢
      split at hread
      · rename_i hhyphen
        obtain ⟨s₁, hs₁, hok⟩ := Except.bind_eq_ok.mp hread
        cases hok
        obtain ⟨s', hs'⟩ := item_relaxed hlike hs₁
        exact ⟨s', by rw [if_pos hhyphen, hs']; rfl⟩
      · rename_i hrange
        obtain ⟨⟨last, rest⟩, hlast, hclose⟩ := Except.bind_eq_ok.mp hread
        obtain ⟨rfl, lo, hi, hlo, hhi, hle, rfl⟩ := closeRange_eq_ok.mp hclose
        obtain ⟨last', hlast', hlike'⟩ := readSetEnd_relaxed h hlast
        refine ⟨.range lo hi, ?_⟩
        rw [if_neg hrange, hlast', Except.ok_bind]
        exact closeRange_eq_ok.mpr
          ⟨rfl, lo, hi, rangeEnd_relaxed hlike hlo, rangeEnd_relaxed hlike' hhi, hle, rfl⟩
    · rw [rangeRest_other _ hc] at hread
      obtain ⟨s₁, hs₁, hok⟩ := Except.bind_eq_ok.mp hread
      cases hok
      obtain ⟨s', hs'⟩ := item_relaxed hlike hs₁
      exact ⟨s', by rw [rangeRest_other _ hc, hs']; rfl⟩

theorem readSetRange_relaxed (h : flags.ignoreBlanks = false) {cs r : List Char} {s : CharSet}
    (hread : readSetRange flags cs = .ok (s, r)) : ∃ s', readSetRange {} cs = .ok (s', r) := by
  rw [readSetRange_eq h] at hread
  obtain ⟨⟨a, rest⟩, ha, hrest⟩ := Except.bind_eq_ok.mp hread
  obtain ⟨a', ha', hlike⟩ := readSetEnd_relaxed h ha
  obtain ⟨s', hs'⟩ := rangeRest_relaxed h hlike hrest
  exact ⟨s', by rw [readSetRange_eq rfl, ha']; exact hs'⟩

/-- What a bracket holds so far does not decide where it ends. -/
theorem readBracket_relaxed (h : flags.ignoreBlanks = false) {fuel : Nat} {b : Bracket}
    {cs r : List Char} {x : SetItem} (hread : readBracket flags fuel b cs = .ok (x, r))
    (b' : Bracket) : ∃ x', readBracket {} fuel b' cs = .ok (x', r) := by
  induction fuel generalizing b cs x r b' with
  | zero => cases hread
  | succ fuel ih =>
    match cs, hread with
    | [], hread => exact absurd hread (readBracket_unclosed h (.inl rfl) _ b _)
    | c :: cs, hread =>
      by_cases hopen : c = '['
      · subst hopen
        rw [readBracket_open h] at hread
        rw [readBracket_open rfl]
        cases hclass : readAsciiClass? cs with
        | none =>
          rw [hclass] at hread
          obtain ⟨⟨inner, mid⟩, hstart, hrest⟩ := Except.bind_eq_ok.mp hread
          obtain ⟨⟨item, mid'⟩, hitem, hrest⟩ := Except.bind_eq_ok.mp hrest
          obtain ⟨item', hitem'⟩ := ih hitem inner
          obtain ⟨x', hx'⟩ := ih hrest (b'.push item')
          refine ⟨x', ?_⟩
          show readBracketStart {} cs >>= _ = _
          rw [hstart, Except.ok_bind, hitem']
          exact hx'
        | some found =>
          obtain ⟨negated, s, rest⟩ := found
          rw [hclass] at hread
          obtain ⟨s', _, hrest⟩ := Except.bind_eq_ok.mp hread
          exact ih hrest _
      by_cases hclose : c = ']'
      · subst hclose
        rw [readBracket_close h] at hread
        obtain ⟨_, _, hok⟩ := Except.bind_eq_ok.mp hread
        cases hok
        exact ⟨_, readBracket_close rfl fuel b' _⟩
      by_cases hitem : opSign? c = none ∨ cs.head? ≠ some c
      · have hstarts : StartsItem (c :: cs) := ⟨c, cs, rfl, hopen, hclose, hitem⟩
        rw [readBracket_item h hstarts] at hread
        obtain ⟨⟨s, rest⟩, hs, hrest⟩ := Except.bind_eq_ok.mp hread
        obtain ⟨s', hs'⟩ := readSetRange_relaxed h hs
        obtain ⟨x', hx'⟩ := ih hrest (b'.pushSet s')
        refine ⟨x', ?_⟩
        rw [readBracket_item rfl hstarts, hs']
        exact hx'
      · obtain ⟨hsign, hhead⟩ := not_or.mp hitem
        obtain ⟨op, hop⟩ := Option.ne_none_iff_exists'.mp hsign
        match cs, Decidable.not_not.mp hhead, hread with
        | d :: cs, hhead, hread =>
          obtain rfl : d = c := Option.some.inj hhead
          rw [readBracket_op h hop] at hread
          rw [readBracket_op rfl hop]
          exact ih hread _

theorem readBracketBody_relaxed (h : flags.ignoreBlanks = false) {cs r : List Char} {x : SetItem}
    (hread : readBracketBody flags cs = .ok (x, r)) :
    ∃ x', readBracketBody {} cs = .ok (x', r) := by
  rw [readBracketBody, readBracketStart_plain h] at hread
  obtain ⟨⟨b, mid⟩, hstart, hrest⟩ := Except.bind_eq_ok.mp hread
  obtain ⟨x', hx'⟩ := readBracket_relaxed h hrest b
  exact ⟨x', by rw [readBracketBody, hstart]; exact hx'⟩

/-! ## Opening parentheses -/

theorem setFlag?_isSome {value : Bool} {letter : Char} {flags' : Flags}
    (h : setFlag? value letter flags = some flags') (other : Flags) :
    ∃ other', setFlag? value letter other = some other' := by
  unfold setFlag? at h ⊢
  split at h
  all_goals first | exact ⟨_, rfl⟩ | cases h

theorem readFlags_relaxed {seen : List Char} {value dangling : Bool} {flags' : Flags}
    {cs seen' r : List Char} (h : readFlags seen value dangling flags cs = .ok (flags', seen', r))
    (other : Flags) :
    ∃ other', readFlags seen value dangling other cs = .ok (other', seen', r) := by
  induction cs generalizing seen value dangling flags other with
  | nil => cases h
  | cons c cs ih =>
    rw [readFlags] at h ⊢
    split at h
    · rename_i hc
      obtain ⟨hdangling, hok⟩ := Except.ite_error_eq_ok.mp h
      cases hok
      exact ⟨other, by rw [if_pos hc, if_neg hdangling]⟩
    · rename_i hc
      rw [if_neg hc]
      split at h
      · rename_i hhyphen
        obtain ⟨hvalue, hmore⟩ := Except.ite_else_error_eq_ok.mp h
        rw [if_pos hhyphen, if_pos hvalue]
        exact ih hmore other
      · rename_i hhyphen
        rw [if_neg hhyphen]
        split at h
        · cases h
        · rename_i flags₁ hset
          obtain ⟨hseen, hmore⟩ := Except.ite_error_eq_ok.mp h
          obtain ⟨other₁, hother⟩ := setFlag?_isSome hset other
          obtain ⟨other', hother'⟩ := ih hmore other₁
          refine ⟨other', ?_⟩
          rw [hother]
          exact (if_neg hseen).trans hother'

end

/-! ## Tokens -/

/-- How many groups are open behind a token; absent if it closes what is not open. -/
def Token.nest? : Token → Nat → Option Nat
  | .open _ _ _, n => some (n + 1)
  | .close, 0 => none
  | .close, n + 1 => some n
  | _, n => some n

section
variable {flags : Flags}

theorem opens_relaxed {cs r : List Char} {t : Token} (h : Opens flags cs t r) :
    ∃ t', Opens {} cs t' r ∧ t'.nest? = t.nest? := by
  cases h with
  | group hmark => exact ⟨_, .group hmark, rfl⟩
  | named hsign hname => exact ⟨_, .named hsign hname, rfl⟩
  | flagged hflags =>
    obtain ⟨flags', hflags'⟩ := readFlags_relaxed hflags {}
    exact ⟨_, .flagged hflags', rfl⟩
  | setFlags hflags hseen =>
    obtain ⟨flags', hflags'⟩ := readFlags_relaxed hflags {}
    exact ⟨_, .setFlags hflags' hseen, rfl⟩

/-- What is a token under some flags is one under the first flags, as long and with the
same effect on the groups. -/
theorem readToken_relaxed (h : flags.ignoreBlanks = false) {cs r : List Char} {t : Token}
    (hread : readToken flags cs = .ok (t, r)) :
    ∃ t', readToken {} cs = .ok (t', r) ∧ t'.nest? = t.nest? := by
  cases readToken_eq_ok.mp hread with
  | @escape a rest left ha =>
    obtain ⟨a', ha', _⟩ := readEscape_relaxed h ha
    refine ⟨a'.token {}, readToken_eq_ok.mpr (.escape ha'), ?_⟩
    cases a <;> cases a' <;> rfl
  | bracket hx =>
    obtain ⟨x', hx'⟩ := readBracketBody_relaxed h hx
    exact ⟨_, readToken_eq_ok.mpr (.bracket hx'), rfl⟩
  | opening ht =>
    obtain ⟨t', ht', hnest⟩ := opens_relaxed ((readOpening_eq_ok h).mp ht)
    exact ⟨t', readToken_eq_ok.mpr (.opening ((readOpening_eq_ok rfl).mpr ht')), hnest⟩
  | counts hx =>
    rw [readCounts_plain h] at hx
    exact ⟨_, readToken_eq_ok.mpr (.counts hx), rfl⟩
  | sign rest hsign => exact ⟨_, readToken_eq_ok.mpr (.sign _ hsign), rfl⟩
  | literal rest hc => exact ⟨_, readToken_eq_ok.mpr (.literal _ hc), rfl⟩
  | dot rest _ => exact ⟨_, readToken_eq_ok.mpr (.dot _ rfl), rfl⟩
  | close rest => exact ⟨_, readToken_eq_ok.mpr (.close _), rfl⟩
  | bar rest => exact ⟨_, readToken_eq_ok.mpr (.bar _), rfl⟩
  | start rest => exact ⟨_, readToken_eq_ok.mpr (.start _), rfl⟩
  | «end» rest => exact ⟨_, readToken_eq_ok.mpr (.end _), rfl⟩

/-! ## Blanks go on counting -/

/-- The signs of which flags are made. -/
def flagSigns : List Char := ['i', 'm', 's', 'u', 'R', 'x', 'U', '-']

/-- Behind no opening parenthesis and question mark there are flags with an `x`. -/
def KeepsBlanks (text : List Char) : Prop :=
  ∀ before signs after, text = before ++ '(' :: '?' :: (signs ++ after) →
    (∀ c ∈ signs, c ∈ flagSigns) → 'x' ∉ signs

theorem KeepsBlanks.of_suffix {text rest : List Char} (h : KeepsBlanks text)
    (hrest : rest <:+ text) : KeepsBlanks rest := by
  obtain ⟨front, rfl⟩ := hrest
  intro before signs after htext hsigns
  exact h (front ++ before) signs after (by rw [htext, List.append_assoc]) hsigns

theorem KeepsBlanks.of_prefix {text front : List Char} (h : KeepsBlanks text)
    (hfront : front <+: text) : KeepsBlanks front := by
  obtain ⟨rest, rfl⟩ := hfront
  intro before signs after htext hsigns
  exact h before signs (after ++ rest) (by rw [htext]; simp) hsigns

/-- Without the sequence that flags start with there is nothing to look for. -/
theorem keepsBlanks_of_not_infix {text : List Char} (h : ¬ ['(', '?'] <:+: text) :
    KeepsBlanks text := by
  intro before signs after htext
  exact absurd ⟨before, signs ++ after, by rw [htext]; simp⟩ h

theorem setFlag?_sign {value : Bool} {letter : Char} {flags' : Flags}
    (h : setFlag? value letter flags = some flags') :
    letter ∈ flagSigns ∧ (letter ≠ 'x' → flags'.ignoreBlanks = flags.ignoreBlanks) := by
  unfold setFlag? at h
  split at h
  all_goals cases h
  all_goals refine ⟨by decide, fun hx => ?_⟩
  all_goals first | rfl | exact absurd rfl hx

/-- Flags are read from their signs, and without an `x` blanks count as before. -/
theorem readFlags_signs {seen : List Char} {value dangling : Bool} {flags' : Flags}
    {cs seen' r : List Char} (h : readFlags seen value dangling flags cs = .ok (flags', seen', r)) :
    ∃ signs, cs = signs ++ r ∧ (∀ c ∈ signs, c ∈ flagSigns) ∧
      ('x' ∉ signs → flags'.ignoreBlanks = flags.ignoreBlanks) := by
  induction cs generalizing seen value dangling flags with
  | nil => cases h
  | cons c cs ih =>
    rw [readFlags] at h
    split at h
    · obtain ⟨_, hok⟩ := Except.ite_error_eq_ok.mp h
      cases hok
      exact ⟨[], rfl, List.forall_mem_nil _, fun _ => rfl⟩
    · split at h
      · rename_i hhyphen
        obtain ⟨_, hmore⟩ := Except.ite_else_error_eq_ok.mp h
        obtain ⟨signs, rfl, hsigns, hblanks⟩ := ih hmore
        refine ⟨c :: signs, rfl, List.forall_mem_cons.mpr ⟨by rw [hhyphen]; decide, hsigns⟩, ?_⟩
        exact fun hx => hblanks fun hmem => hx (List.mem_cons_of_mem _ hmem)
      · split at h
        · cases h
        · rename_i flags₁ hset
          obtain ⟨_, hmore⟩ := Except.ite_error_eq_ok.mp h
          obtain ⟨signs, rfl, hsigns, hblanks⟩ := ih hmore
          obtain ⟨hsign, hblanks₁⟩ := setFlag?_sign hset
          refine ⟨c :: signs, rfl, List.forall_mem_cons.mpr ⟨hsign, hsigns⟩, fun hx => ?_⟩
          rw [List.mem_cons, not_or] at hx
          exact (hblanks hx.2).trans (hblanks₁ (Ne.symm hx.1))

/-- The flags that a token sets. -/
def Token.flags? : Token → Option Flags
  | .open _ _ flags => some flags
  | .setFlags flags => some flags
  | _ => none

/-- Only a token that starts with an opening parenthesis sets flags. -/
theorem opens_of_flags? (h : flags.ignoreBlanks = false) {cs r : List Char} {t : Token}
    (hread : readToken flags cs = .ok (t, r)) :
    t.flags? = none ∨ ∃ rest, cs = '(' :: rest ∧ Opens flags rest t r := by
  cases readToken_eq_ok.mp hread with
  | @escape a _ _ _ =>
    cases a <;> exact .inl rfl
  | opening ht => exact .inr ⟨_, rfl, (readOpening_eq_ok h).mp ht⟩
  | _ => exact .inl rfl

/-- Behind a token blanks go on counting, unless it holds the flag that ends that. -/
theorem blanksCount_readToken (h : flags.ignoreBlanks = false) {taken r : List Char} {t : Token}
    (hread : readToken flags (taken ++ r) = .ok (t, r)) (hkeeps : KeepsBlanks taken) :
    ∀ flags' ∈ t.flags?, flags'.ignoreBlanks = false := by
  intro flags' hflags'
  rcases opens_of_flags? h hread with hnone | ⟨rest, htext, hopens⟩
  · rw [hnone] at hflags'
    cases hflags'
  · -- The signs of the flags stand in what the token takes.
    have hsigns : ∀ {rest : List Char} {seen : List Char} {c : Char},
        taken ++ r = '(' :: '?' :: rest →
        readFlags [] true false flags rest = .ok (flags', seen, c :: r) →
        flags'.ignoreBlanks = false := by
      intro rest seen c htext hread
      obtain ⟨signs, rfl, hsigns, hblanks⟩ := readFlags_signs hread
      have htaken : taken = '(' :: '?' :: (signs ++ [c]) :=
        List.append_cancel_right (htext.trans (by simp))
      exact (hblanks (hkeeps [] signs [c] htaken hsigns)).trans h
    cases hopens with
    | group _ =>
      obtain rfl := Option.some.inj hflags'
      exact h
    | named _ _ =>
      obtain rfl := Option.some.inj hflags'
      exact h
    | flagged hread =>
      obtain rfl := Option.some.inj hflags'
      exact hsigns htext hread
    | setFlags hread _ =>
      obtain rfl := Option.some.inj hflags'
      exact hsigns htext hread

end

end AccessDecision.Regex
