import AccessDecision.Proofs.Regex.Relaxed

/-
  Fragments in a group

  A fragment that is an expression between the two anchors is followed here through the
  parser in three places at once: between the anchors, inside the parentheses of a
  template, and alone. As long as blanks count, its tokens are the same in all three, so
  in the parentheses it does what it does alone, and what stands behind it is read from
  its closing parenthesis on.

  What is proved:
    1. `run_fragment` — inside a group that nothing has been read into, a fragment is
       read as it is read alone, unless it ends with a backslash that takes the closing
       parenthesis.
    2. `run_nests` — under whatever flags, a fragment closes the groups that it opens
       and no others.
-/

namespace AccessDecision.Regex

/-! ## One token of a run -/

theorem run_nil {fuel : Nat} {s e : State} (h : State.run fuel s [] = .ok e) : e = s := by
  have hskip : skipBlanks s.flags [] = [] := by
    rw [skipBlanks]
    split <;> rfl
  cases fuel with
  | zero => cases h
  | succ fuel =>
    rw [State.run, hskip] at h
    cases h
    rfl

/-- While blanks count, a run over what is left starts with a token of it. -/
theorem run_eq_ok {fuel : Nat} {s e : State} {cs : List Char} (hcs : cs ≠ [])
    (hblanks : s.flags.ignoreBlanks = false) :
    State.run fuel s cs = .ok e ↔ ∃ fuel' t mid s', fuel = fuel' + 1 ∧
      readToken s.flags cs = .ok (t, mid) ∧ s.step t = .ok s' ∧ State.run fuel' s' mid = .ok e := by
  cases fuel with
  | zero =>
    constructor
    · exact nofun
    · intro h
      obtain ⟨_, _, _, _, hfuel, _⟩ := h
      cases hfuel
  | succ fuel =>
    rw [State.run, skipBlanks_plain hblanks]
    constructor
    · intro h
      split at h
      · exact absurd rfl hcs
      · split at h
        · cases h
        · rename_i t mid hread
          split at h
          · cases h
          · rename_i s' hstep
            exact ⟨fuel, t, mid, s', rfl, hread, hstep, h⟩
    · intro h
      obtain ⟨_, t, mid, s', hfuel, hread, hstep, hrun⟩ := h
      cases hfuel
      split
      · exact absurd rfl hcs
      · rw [hread]
        simp only [hstep]
        exact hrun

/-! ## Flags and groups along a run -/

/-- The flags in force and those around the open groups, innermost first. -/
def State.stack (s : State) : List Flags := s.flags :: s.outer.map (·.flags)

/-- What a token does to the flags; absent if it closes what is not open. -/
def Token.shift? : Token → List Flags → Option (List Flags)
  | .open _ _ flags, stack => some (flags :: stack)
  | .setFlags flags, stack => some (flags :: stack.tail)
  | .close, _ :: flags :: stack => some (flags :: stack)
  | .close, _ => none
  | _, stack => some stack

theorem step_shift? {s s' : State} {t : Token} (h : s.step t = .ok s') :
    t.shift? s.stack = some s'.stack := by
  obtain ⟨flags, names, level, outer⟩ := s
  cases t with
  | item e depth =>
    cases h
    rfl
  | times min max =>
    obtain ⟨level', _, rfl⟩ := Except.map_eq_ok.mp h
    rfl
  | «open» captures name flags' =>
    cases name with
    | none =>
      cases h
      rfl
    | some name =>
      obtain ⟨_, hok⟩ := Except.ite_error_eq_ok.mp h
      cases hok
      rfl
  | setFlags flags' =>
    cases h
    rfl
  | close =>
    cases outer with
    | nil => cases h
    | cons g outer =>
      cases h
      rfl
  | bar =>
    cases h
    rfl

/-- What a token does to the flags around the groups it does to their number. -/
theorem nest?_of_shift? {t : Token} {flags flags' : Flags} {stack stack' : List Flags}
    (h : t.shift? (flags :: stack) = some (flags' :: stack')) :
    t.nest? stack.length = some stack'.length := by
  cases t with
  | close =>
    cases stack with
    | nil => cases h
    | cons _ stack =>
      cases h
      rfl
  | _ =>
    cases h
    rfl

theorem step_nest? {s s' : State} {t : Token} (h : s.step t = .ok s') :
    t.nest? s.outer.length = some s'.outer.length := by
  have hnest := nest?_of_shift? (step_shift? h)
  rwa [List.length_map, List.length_map] at hnest

theorem nest?_add {t : Token} {n m : Nat} (h : t.nest? n = some m) (k : Nat) :
    t.nest? (n + k) = some (m + k) := by
  cases t with
  | close =>
    cases n with
    | zero => cases h
    | succ n =>
      cases h
      rw [Nat.add_right_comm]
      rfl
  | «open» _ _ _ =>
    cases h
    rw [Nat.add_right_comm]
    rfl
  | _ =>
    cases h
    rfl

/-! ## While blanks count -/

/-- Blanks count under all of these flags. -/
def BlanksCount (stack : List Flags) : Prop := ∀ flags ∈ stack, flags.ignoreBlanks = false

theorem BlanksCount.shift {t : Token} {stack stack' : List Flags} (h : BlanksCount stack)
    (hshift : t.shift? stack = some stack')
    (htoken : ∀ flags ∈ t.flags?, flags.ignoreBlanks = false) : BlanksCount stack' := by
  cases t with
  | «open» captures name flags =>
    cases hshift
    exact List.forall_mem_cons.mpr ⟨htoken flags rfl, h⟩
  | setFlags flags =>
    cases hshift
    refine List.forall_mem_cons.mpr ⟨htoken flags rfl, fun flags' hmem => ?_⟩
    exact h flags' (List.mem_of_mem_tail hmem)
  | close =>
    match stack, hshift with
    | _ :: _ :: _, hshift =>
      cases hshift
      exact fun flags hmem => h flags (List.mem_cons_of_mem _ hmem)
  | _ =>
    cases hshift
    exact h

/-- A token of a text that keeps blanks leaves them counting. -/
theorem BlanksCount.step {s s' : State} {t : Token} {text rest after : List Char}
    (h : BlanksCount s.stack) (hread : readToken s.flags (text ++ after) = .ok (t, rest ++ after))
    (hrest : rest <:+ text) (hkeeps : KeepsBlanks text) (hstep : s.step t = .ok s') :
    BlanksCount s'.stack := by
  obtain ⟨taken, rfl⟩ := hrest
  rw [List.append_assoc] at hread
  have hblanks := blanksCount_readToken (h s.flags List.mem_cons_self) hread
    (hkeeps.of_prefix (List.prefix_append taken rest))
  exact h.shift (step_shift? hstep) hblanks

/-! ## A fragment between the two anchors -/

/-- The run between the anchors ends with an item behind which nothing is left. -/
theorem run_last {fuel : Nat} {s e : State} {cs : List Char} {x : Expr} {depth : Nat}
    (hblanks : s.flags.ignoreBlanks = false) (hcs : cs ≠ [])
    (hread : readToken s.flags cs = .ok (.item x depth, [])) (hrun : State.run fuel s cs = .ok e) :
    e.outer = s.outer := by
  obtain ⟨_, t, r, s', _, hread', hstep, hrest⟩ := (run_eq_ok hcs hblanks).mp hrun
  cases hread.symm.trans hread'
  cases hstep
  rw [run_nil hrest]

/-- A boundary in front of a last opening brace leaves the brace, behind which there are
no counts. -/
theorem run_boundary_brace {fuel : Nat} {s e : State} (hblanks : s.flags.ignoreBlanks = false) :
    State.run fuel s ['\\', 'b', '\x7b', '$'] ≠ .ok e := by
  intro hrun
  obtain ⟨_, t, r, s', _, hread, hstep, hrest⟩ :=
    (run_eq_ok (List.cons_ne_nil _ _) hblanks).mp hrun
  have hboundary : readToken s.flags ['\\', 'b', '\x7b', '$'] =
      .ok (.item (.look (.wordBoundary (!s.flags.unicode))) 0, ['\x7b', '$']) := by
    rw [readToken_escape, readEscape_cons]
    show ((readBoundary s.flags ['\x7b', '$']).map _).map _ = _
    rw [readBoundary_brace hblanks (by decide)]
    rfl
  cases hboundary.symm.trans hread
  have hblanks' : s'.flags.ignoreBlanks = false := by
    cases hstep
    exact hblanks
  obtain ⟨_, _, _, _, _, hread', _⟩ := (run_eq_ok (List.cons_ne_nil _ _) hblanks').mp hrest
  exact readToken_brace hblanks' _ hread'

/-- Between the two anchors a fragment is at its end, or a last backslash, or it starts
with a token that is the same whatever stands behind the fragment. -/
theorem run_alone {fuel : Nat} {s e : State} {f : List Char}
    (hblanks : s.flags.ignoreBlanks = false) (hrun : State.run fuel s (f ++ ['$']) = .ok e) :
    ((f = [] ∨ f = ['\\']) ∧ e.outer = s.outer) ∨
    ∃ fuel' t mid s', fuel = fuel' + 1 ∧ mid <:+ f ∧ mid.length < f.length ∧
      (∀ T, Ends T → readToken s.flags (f ++ T) = .ok (t, mid ++ T)) ∧
      s.step t = .ok s' ∧ State.run fuel' s' (mid ++ ['$']) = .ok e := by
  cases f with
  | nil => exact .inl ⟨.inl rfl, run_last hblanks (List.cons_ne_nil _ _) rfl hrun⟩
  | cons c cs =>
    by_cases hlast : c :: cs = ['\\']
    · rw [hlast] at hrun
      have hread := readToken_escaped s.flags (by decide : isMeta '$' = true) []
      exact .inl ⟨.inr hlast, run_last hblanks (List.cons_ne_nil _ _) hread hrun⟩
    · obtain ⟨fuel', t, r, s', hfuel, hread, hstep, hrest⟩ :=
        (run_eq_ok (List.cons_ne_nil _ _) hblanks).mp hrun
      have hbrace : c = '\\' → cs ≠ ['b', '\x7b'] := by
        rintro rfl rfl
        exact run_boundary_brace hblanks hrun
      obtain ⟨mid, rfl, hsuffix, htakes⟩ :=
        local_readToken hblanks (fun hc hcs => hlast (by rw [hc, hcs])) hbrace t r hread
      have hlt : mid.length < (c :: cs).length := Nat.lt_succ_of_le hsuffix.length_le
      exact .inr ⟨fuel', t, mid, s', hfuel, hsuffix.trans (List.suffix_cons c cs), hlt, htakes,
        hstep, hrest⟩

/-! ## A fragment in a group -/

/-- One state stands inside the groups of another: it has the same flags and the same
level, and what it has open stands inside of the groups around. -/
structure State.Within (outer : List OpenGroup) (a s : State) : Prop where
  flags : s.flags = a.flags
  level : s.level = a.level
  outer : s.outer = a.outer ++ outer
  names : a.names ⊆ s.names

/-- What does not close the groups around does the same inside of them. -/
theorem State.Within.step {outer : List OpenGroup} {a s s' : State} {t : Token}
    {stack : List Flags} (h : a.Within outer s) (hstep : s.step t = .ok s')
    (hopen : t.shift? a.stack = some stack) : ∃ a', a.step t = .ok a' ∧ a'.Within outer s' := by
  obtain ⟨flags, names, level, outer'⟩ := a
  obtain ⟨flags, snames, level, souter⟩ := s
  obtain ⟨hflags, hlevel, houter, hnames⟩ := h
  dsimp only at hflags hlevel houter hnames
  subst hflags hlevel houter
  cases t with
  | item e depth =>
    cases hstep
    exact ⟨_, rfl, rfl, rfl, rfl, hnames⟩
  | times min max =>
    obtain ⟨level', hlevel, rfl⟩ := Except.map_eq_ok.mp hstep
    exact ⟨_, Except.map_eq_ok.mpr ⟨level', hlevel, rfl⟩, rfl, rfl, rfl, hnames⟩
  | «open» captures name flags' =>
    cases name with
    | none =>
      cases hstep
      exact ⟨_, rfl, rfl, rfl, rfl, hnames⟩
    | some name =>
      obtain ⟨hnew, hok⟩ := Except.ite_error_eq_ok.mp hstep
      cases hok
      have hfresh : ¬ names.contains name = true := by
        rw [List.contains_iff_mem] at hnew ⊢
        exact fun hmem => hnew (hnames hmem)
      exact ⟨_, Except.ite_error_eq_ok.mpr ⟨hfresh, rfl⟩, rfl, rfl, rfl,
        List.cons_subset_cons name hnames⟩
  | setFlags flags' =>
    cases hstep
    exact ⟨_, rfl, rfl, rfl, rfl, hnames⟩
  | close =>
    cases outer' with
    | nil => cases hopen
    | cons g outer' =>
      cases hstep
      exact ⟨_, rfl, rfl, rfl, rfl, hnames⟩
  | bar =>
    cases hstep
    exact ⟨_, rfl, rfl, rfl, rfl, hnames⟩

/-- In a group a fragment is read as it is read alone, up to its end or up to a last
backslash. -/
theorem run_fragment {fuel₀ fuel : Nat} {s₀ e₀ a s e : State} {outer : List OpenGroup}
    {f T : List Char} (halone : State.run fuel₀ s₀ (f ++ ['$']) = .ok e₀) (hclosed : e₀.outer = [])
    (hrun : State.run fuel s (f ++ ')' :: T) = .ok e) (hwithin : a.Within outer s)
    (hstack : a.stack = s₀.stack) (hblanks : BlanksCount a.stack) (hkeeps : KeepsBlanks f) :
    ∃ fuel' a' s' left, (left = [] ∨ left = ['\\']) ∧
      (∀ T, Ends T → Reads a (f ++ T) a' (left ++ T)) ∧ a'.outer = [] ∧ BlanksCount a'.stack ∧
      a'.Within outer s' ∧ State.run fuel' s' (left ++ ')' :: T) = .ok e := by
  -- Token by token, `a` keeps the flags and the groups of the run alone, and the level of the
  -- run in the group.
  induction fuel₀ generalizing f s₀ a s fuel with
  | zero => cases halone
  | succ fuel₀ ih =>
    have hflags : s₀.flags = a.flags := (List.cons.inj hstack).1.symm
    have hplain : a.flags.ignoreBlanks = false := hblanks _ List.mem_cons_self
    rcases run_alone (hflags ▸ hplain) halone with ⟨hleft, houter⟩ | hfirst
    · have hmap : a.outer.map (·.flags) = s₀.outer.map (·.flags) := (List.cons.inj hstack).2
      rw [← houter, hclosed] at hmap
      exact ⟨fuel, a, s, f, hleft, fun T _ => .done a _, List.map_eq_nil_iff.mp hmap, hblanks,
        hwithin, hrun⟩
    · obtain ⟨_, t, mid, s₁, hfuel, hmid, hlt, htakes, hstep, hrest⟩ := hfirst
      cases hfuel
      rw [hflags] at htakes
      have hne : f ++ ')' :: T ≠ [] := List.append_ne_nil_of_right_ne_nil f (List.cons_ne_nil _ _)
      obtain ⟨fuel', t', r, s', rfl, hread, hstep', hmore⟩ :=
        (run_eq_ok hne (hwithin.flags ▸ hplain)).mp hrun
      rw [hwithin.flags] at hread
      cases (htakes _ (.close T)).symm.trans hread
      have hshift := step_shift? hstep
      rw [← hstack] at hshift
      obtain ⟨a', hstepa, hwithin'⟩ := hwithin.step hstep' hshift
      have hstack' : a'.stack = s₁.stack :=
        Option.some.inj ((step_shift? hstepa).symm.trans hshift)
      have hblanks' : BlanksCount a'.stack :=
        hblanks.step (htakes _ (.close T)) hmid hkeeps hstepa
      obtain ⟨fuel'', a'', s'', left, hleft, hreads, hrest'⟩ :=
        ih hrest hmore hwithin' hstack' hblanks' (hkeeps.of_suffix hmid)
      refine ⟨fuel'', a'', s'', left, hleft, fun T hT => ?_, hrest'⟩
      have hshorter : (mid ++ T).length < (f ++ T).length := by
        rw [List.length_append, List.length_append]
        exact Nat.add_lt_add_right hlt _
      exact (Reads.single hplain (htakes T hT) hshorter hstepa).trans (hreads T hT)

/-- Flags do not decide where a token ends, nor what it does to the groups. -/
theorem readToken_alike {flags flags' : Flags} (h : flags.ignoreBlanks = false)
    (h' : flags'.ignoreBlanks = false) {cs r r' : List Char} {t t' : Token}
    (hread : readToken flags cs = .ok (t, r)) (hread' : readToken flags' cs = .ok (t', r')) :
    r' = r ∧ t'.nest? = t.nest? := by
  obtain ⟨t₁, ht₁, hnest⟩ := readToken_relaxed h hread
  obtain ⟨t₂, ht₂, hnest'⟩ := readToken_relaxed h' hread'
  cases ht₁.symm.trans ht₂
  exact ⟨rfl, hnest'.symm.trans hnest⟩

/-- Whatever flags are in force, a fragment closes the groups that it opens and no
others. -/
theorem run_nests {fuel₀ fuel k : Nat} {s₀ e₀ s e : State} {f T : List Char}
    (halone : State.run fuel₀ s₀ (f ++ ['$']) = .ok e₀) (hclosed : e₀.outer = [])
    (hrun : State.run fuel s (f ++ ')' :: T) = .ok e)
    (hdepth : s.outer.length = s₀.outer.length + k) (hblanks₀ : BlanksCount s₀.stack)
    (hblanks : BlanksCount s.stack) (hkeeps : KeepsBlanks f) :
    ∃ fuel' s' left, (left = [] ∨ left = ['\\']) ∧ s'.outer.length = k ∧
      BlanksCount s'.stack ∧ State.run fuel' s' (left ++ ')' :: T) = .ok e := by
  induction fuel₀ generalizing f s₀ s fuel with
  | zero => cases halone
  | succ fuel₀ ih =>
    have hplain₀ : s₀.flags.ignoreBlanks = false := hblanks₀ _ List.mem_cons_self
    have hplain : s.flags.ignoreBlanks = false := hblanks _ List.mem_cons_self
    rcases run_alone hplain₀ halone with ⟨hleft, houter⟩ | hfirst
    · have hlength : s.outer.length = k := by
        rw [hdepth, ← houter, hclosed, List.length_nil, Nat.zero_add]
      exact ⟨fuel, s, f, hleft, hlength, hblanks, hrun⟩
    · obtain ⟨_, t, mid, s₁, hfuel, hmid, _, htakes, hstep, hrest⟩ := hfirst
      cases hfuel
      have hne : f ++ ')' :: T ≠ [] := List.append_ne_nil_of_right_ne_nil f (List.cons_ne_nil _ _)
      obtain ⟨fuel', t', r, s', rfl, hread, hstep', hmore⟩ := (run_eq_ok hne hplain).mp hrun
      obtain ⟨rfl, hnest⟩ := readToken_alike hplain₀ hplain (htakes _ (.close T)) hread
      -- Both runs go as many groups in or out, so the distance stays.
      have hnest' := nest?_add (step_nest? hstep) k
      rw [← hdepth, ← hnest, step_nest? hstep'] at hnest'
      exact ih hrest hmore (Option.some.inj hnest')
        (hblanks₀.step (htakes _ (.close T)) hmid hkeeps hstep)
        (hblanks.step hread hmid hkeeps hstep') (hkeeps.of_suffix hmid)

end AccessDecision.Regex
