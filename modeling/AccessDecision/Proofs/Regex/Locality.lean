import AccessDecision.Proofs.Except
import AccessDecision.Regex.Parser

/-
  Readers do not look past the text they stand in

  A fragment of a template is checked with a dollar sign behind it and used with a
  closing parenthesis behind it. `Takes read cs a mid` says that a reader takes the
  front of `cs` and leaves `mid`, whichever of the two follows, or nothing. A reader is
  `Local` if that is so whenever it succeeds in front of a dollar sign. Such readers can
  be put one after the other.

  What is proved:
    1. `local_readCounts`, `local_readProperty` and `local_readCode` — counts,
       properties and code points are read alike whatever stands behind the text, while
       blanks count.
    2. `local_readBoundary` and `local_readEscape` — so are escape sequences, but for a
       boundary in front of a last opening brace.
-/

namespace AccessDecision.Regex

/-- What may stand behind a text. -/
inductive Ends : List Char → Prop where
  | nil : Ends []
  | dollar : Ends ['$']
  | close (rest : List Char) : Ends (')' :: rest)

/-- The reader takes the front of `cs` and leaves `mid`, whatever stands behind. -/
def Takes {α : Type} (read : Reader α) (cs : List Char) (a : α) (mid : List Char) : Prop :=
  mid <:+ cs ∧ ∀ T, Ends T → read (cs ++ T) = .ok (a, mid ++ T)

/-- If the reader succeeds on the text with a dollar sign behind it, it leaves that
sign, and does the same whatever stands behind the text. -/
def LocalAt {α : Type} (read : Reader α) (cs : List Char) : Prop :=
  ∀ a r, read (cs ++ ['$']) = .ok (a, r) → ∃ mid, r = mid ++ ['$'] ∧ Takes read cs a mid

/-- The same of every text. -/
def Local {α : Type} (read : Reader α) : Prop := ∀ cs, LocalAt read cs

section
variable {α β : Type}

theorem local_ok (a : α) : Local fun cs => .ok (a, cs) := by
  intro cs a' r h
  cases h
  exact ⟨cs, rfl, List.suffix_refl cs, fun _ _ => rfl⟩

theorem local_error (e : SyntaxError) : Local fun _ : List Char => (.error e : Except _ (α × _)) :=
  nofun

theorem LocalAt.map {read : Reader α} {cs : List Char} (h : LocalAt read cs) (f : α → β) :
    LocalAt (fun cs => (read cs).map fun r => (f r.1, r.2)) cs := by
  intro b r hread
  obtain ⟨⟨a, r'⟩, ha, hb⟩ := Except.map_eq_ok.mp hread
  cases hb
  obtain ⟨mid, hmid, hsuffix, htakes⟩ := h a r' ha
  refine ⟨mid, hmid, hsuffix, fun T hT => ?_⟩
  show (read (cs ++ T)).map _ = _
  rw [htakes T hT]
  rfl

theorem LocalAt.congr {read read' : Reader α} {cs : List Char} (h : LocalAt read' cs)
    (heq : ∀ T, read (cs ++ T) = read' (cs ++ T)) : LocalAt read cs := by
  intro a r hread
  obtain ⟨mid, hmid, hsuffix, htakes⟩ := h a r (heq ['$'] ▸ hread)
  exact ⟨mid, hmid, hsuffix, fun T hT => (heq T).trans (htakes T hT)⟩

/-- Past a first character, by what the reader does behind it. -/
theorem LocalAt.cons {read : Reader α} {c : Char} {cs : List Char}
    (h : LocalAt (fun rest => read (c :: rest)) cs) : LocalAt read (c :: cs) := by
  intro a r hread
  obtain ⟨mid, hmid, hsuffix, htakes⟩ := h a r hread
  exact ⟨mid, hmid, hsuffix.trans (List.suffix_cons c cs), htakes⟩

/-- One reader after the other. -/
theorem Local.bind {read : Reader α} {next : α → Reader β} (h : Local read)
    (hnext : ∀ a, Local (next a)) : Local fun cs => read cs >>= fun r => next r.1 r.2 := by
  intro cs b r hread
  obtain ⟨⟨a, r'⟩, ha, hb⟩ := Except.bind_eq_ok.mp hread
  obtain ⟨mid', rfl, hsuffix', htakes'⟩ := h cs a r' ha
  obtain ⟨mid, rfl, hsuffix, htakes⟩ := hnext a mid' b r hb
  refine ⟨mid, rfl, hsuffix.trans hsuffix', fun T hT => ?_⟩
  show read (cs ++ T) >>= _ = _
  rw [htakes' T hT]
  exact htakes T hT

theorem Local.ite (p : Prop) [Decidable p] {read read' : Reader α} (h : Local read)
    (h' : Local read') : Local fun cs => if p then read cs else read' cs := by
  by_cases hp : p
  · simpa only [hp, if_true] using h
  · simpa only [hp, if_false] using h'

/-- A check between two readers. -/
theorem Local.check (x : Except SyntaxError α) {next : α → Reader β} (hnext : ∀ a, Local (next a)) :
    Local fun cs => x >>= fun a => next a cs := by
  cases x with
  | error e => exact local_error e
  | ok a => exact hnext a

end

/-! ## While blanks count, they are not skipped -/

section
variable {flags : Flags}

theorem skipBlanks_plain (h : flags.ignoreBlanks = false) (cs : List Char) :
    skipBlanks flags cs = cs := by
  simp [skipBlanks, h]

theorem skipBlanks_default (cs : List Char) : skipBlanks {} cs = cs := rfl

theorem peekPastBlanks_plain (h : flags.ignoreBlanks = false) (cs : List Char) :
    peekPastBlanks flags cs = cs.head? := by
  simp [peekPastBlanks, h]

theorem readHexDigits_plain (h : flags.ignoreBlanks = false) (n value : Nat) (cs : List Char) :
    readHexDigits flags n value cs = readHexDigits {} n value cs := by
  induction n generalizing value cs with
  | zero => rfl
  | succ n ih =>
    cases cs with
    | nil => rfl
    | cons c cs => simp only [readHexDigits, skipBlanks_plain h, skipBlanks_default, ih]

theorem readHexBraced_plain (h : flags.ignoreBlanks = false) (fuel : Nat) (value : Option Nat)
    (cs : List Char) : readHexBraced flags fuel value cs = readHexBraced {} fuel value cs := by
  induction fuel generalizing value cs with
  | zero => rfl
  | succ fuel ih => simp only [readHexBraced, skipBlanks_plain h, skipBlanks_default, ih]

theorem readBraced_plain (h : flags.ignoreBlanks = false) (fuel : Nat) (read cs : List Char) :
    readBraced flags fuel read cs = readBraced {} fuel read cs := by
  induction fuel generalizing read cs with
  | zero => rfl
  | succ fuel ih =>
    cases cs with
    | nil => rfl
    | cons c cs => simp only [readBraced, skipBlanks_plain h, skipBlanks_default, ih]

theorem readDigits_plain (h : flags.ignoreBlanks = false) (fuel : Nat) (value : Option Nat)
    (cs : List Char) : readDigits flags fuel value cs = readDigits {} fuel value cs := by
  induction fuel generalizing value cs with
  | zero => rfl
  | succ fuel ih =>
    cases cs with
    | nil => rfl
    | cons c cs => simp only [readDigits, skipBlanks_plain h, skipBlanks_default, ih]

theorem dropSpace_plain (h : flags.ignoreBlanks = false) (fuel : Nat) (cs : List Char) :
    dropSpace flags fuel cs = dropSpace {} fuel cs := by
  induction fuel generalizing cs with
  | zero => rfl
  | succ fuel ih =>
    cases cs with
    | nil => rfl
    | cons c cs => simp only [dropSpace, skipBlanks_plain h, skipBlanks_default, ih]

theorem readCount_plain (h : flags.ignoreBlanks = false) (cs : List Char) :
    readCount flags cs = readCount {} cs := by
  simp only [readCount, readDigits_plain h, dropSpace_plain h]

theorem readCounts_plain (h : flags.ignoreBlanks = false) (cs : List Char) :
    readCounts flags cs = readCounts {} cs := by
  simp only [readCounts, readCount_plain h, skipBlanks_plain h, skipBlanks_default]

theorem readBoundaryName_plain (h : flags.ignoreBlanks = false) (fuel : Nat) (read cs : List Char) :
    readBoundaryName flags fuel read cs = readBoundaryName {} fuel read cs := by
  induction fuel generalizing read cs with
  | zero => rfl
  | succ fuel ih =>
    cases cs with
    | nil => rfl
    | cons c cs => simp only [readBoundaryName, skipBlanks_plain h, skipBlanks_default, ih]

theorem hyphens_plain (h : flags.ignoreBlanks = false) (fuel : Nat) (items : List SetItem)
    (cs : List Char) :
    readBracketStart.hyphens flags fuel items cs = readBracketStart.hyphens {} fuel items cs := by
  induction fuel generalizing items cs with
  | zero => rfl
  | succ fuel ih =>
    unfold readBracketStart.hyphens
    split
    · rename_i heq
      cases heq
      rw [skipBlanks_plain h, skipBlanks_default, ih]
    · rfl

theorem readBracketStart_plain (h : flags.ignoreBlanks = false) (cs : List Char) :
    readBracketStart flags cs = readBracketStart {} cs := by
  simp only [readBracketStart, hyphens_plain h, skipBlanks_plain h, skipBlanks_default]

end

/-! ## Digits and names -/

theorem Ends.head {T : List Char} (hT : Ends T) {c : Char} {rest : List Char} (h : T = c :: rest) :
    c = '$' ∨ c = ')' := by
  cases hT with
  | nil => cases h
  | dollar => exact .inl (List.cons.inj h).1.symm
  | close rest => exact .inr (List.cons.inj h).1.symm

theorem Ends.not_head {T : List Char} (hT : Ends T) {c : Char} (hdollar : c ≠ '$')
    (hclose : c ≠ ')') (rest : List Char) : T ≠ c :: rest := by
  intro h
  rcases hT.head h with hc | hc
  · exact hdollar hc
  · exact hclose hc

theorem local_readHexDigits (n value : Nat) : Local (readHexDigits {} n value) := by
  induction n generalizing value with
  | zero => exact local_ok value
  | succ n ih =>
    intro cs x r h
    cases cs with
    | nil => cases h
    | cons c cs =>
      simp only [List.cons_append, readHexDigits, skipBlanks_default] at h
      split at h
      · cases h
      · rename_i d hd
        obtain ⟨mid, hmid, hsuffix, htakes⟩ := ih _ cs x r h
        refine ⟨mid, hmid, hsuffix.trans (List.suffix_cons c cs), fun T hT => ?_⟩
        simp only [List.cons_append, readHexDigits, skipBlanks_default, hd]
        exact htakes T hT

theorem readHexBraced_cons {c : Char} (hc : c ≠ '\x7d') (fuel : Nat) (value : Option Nat)
    (rest : List Char) :
    readHexBraced {} (fuel + 1) value (c :: rest) =
      match hexValue? c with
      | none => .error .codePointInvalid
      | some d => readHexBraced {} fuel (some (value.getD 0 * 16 + d)) rest := by
  conv => lhs; unfold readHexBraced
  cases hd : hexValue? c <;> cases value <;> simp [hc, hd, skipBlanks_default]

/-- The fuel of a reader up to a closing brace covers the text before its end. -/
theorem readHexBraced_append {fuel x : Nat} {value : Option Nat} {cs r : List Char}
    (h : readHexBraced {} fuel value (cs ++ ['$']) = .ok (x, r)) :
    ∃ mid, r = mid ++ ['$'] ∧ mid <:+ cs ∧ ∀ fuel' T, cs.length < fuel' →
      readHexBraced {} fuel' value (cs ++ T) = .ok (x, mid ++ T) := by
  induction cs generalizing fuel value with
  | nil =>
    cases fuel with
    | zero => cases h
    | succ fuel => cases value <;> cases h
  | cons c cs ih =>
    cases fuel with
    | zero => cases h
    | succ fuel =>
      have hfuel : ∀ fuel', (c :: cs).length < fuel' →
          ∃ more, fuel' = more + 1 ∧ cs.length < more := by
        intro fuel' hlt
        rw [List.length_cons] at hlt
        exact ⟨fuel' - 1, by omega, by omega⟩
      by_cases hc : c = '\x7d'
      · subst hc
        cases value with
        | none => cases h
        | some v =>
          cases h
          refine ⟨cs, rfl, List.suffix_cons _ _, fun fuel' T hlt => ?_⟩
          obtain ⟨more, rfl, _⟩ := hfuel fuel' hlt
          rfl
      · rw [List.cons_append, readHexBraced_cons hc] at h
        split at h
        · cases h
        · rename_i d hd
          obtain ⟨mid, hmid, hsuffix, htakes⟩ := ih h
          refine ⟨mid, hmid, hsuffix.trans (List.suffix_cons c cs), fun fuel' T hlt => ?_⟩
          obtain ⟨more, rfl, hmore⟩ := hfuel fuel' hlt
          rw [List.cons_append, readHexBraced_cons hc, hd]
          exact htakes more T hmore

theorem readBraced_append {fuel : Nat} {read x : List Char} {cs r : List Char}
    (h : readBraced {} fuel read (cs ++ ['$']) = .ok (x, r)) :
    ∃ mid, r = mid ++ ['$'] ∧ mid <:+ cs ∧ ∀ fuel' T, cs.length < fuel' →
      readBraced {} fuel' read (cs ++ T) = .ok (x, mid ++ T) := by
  induction cs generalizing fuel read with
  | nil =>
    match fuel, h with
    | 0, h => cases h
    | 1, h => cases h
    | _ + 2, h => cases h
  | cons c cs ih =>
    cases fuel with
    | zero => cases h
    | succ fuel =>
      simp only [List.cons_append, readBraced, skipBlanks_default] at h
      split at h
      · rename_i hc
        cases h
        refine ⟨cs, rfl, List.suffix_cons _ _, fun fuel' T hlt => ?_⟩
        obtain ⟨more, rfl⟩ := Nat.exists_eq_add_of_lt hlt
        exact if_pos hc
      · rename_i hc
        obtain ⟨mid, hmid, hsuffix, htakes⟩ := ih h
        refine ⟨mid, hmid, hsuffix.trans (List.suffix_cons c cs), fun fuel' T hlt => ?_⟩
        obtain ⟨more, rfl⟩ := Nat.exists_eq_add_of_lt hlt
        simp only [List.cons_append, readBraced, skipBlanks_default, hc, if_false]
        exact htakes _ T (by simp only [List.length_cons]; omega)

/-! ## Counts -/

/-- Digits end where the text does, whatever stands behind it. -/
theorem readDigits_append (value : Option Nat) (cs : List Char) :
    ∃ x mid, mid <:+ cs ∧ ∀ fuel T, Ends T → cs.length ≤ fuel →
      readDigits {} fuel value (cs ++ T) = (x, mid ++ T) := by
  induction cs generalizing value with
  | nil =>
    refine ⟨value, [], List.suffix_refl [], fun fuel T hT _ => ?_⟩
    cases fuel with
    | zero => rfl
    | succ fuel => cases hT <;> rfl
  | cons c cs ih =>
    by_cases hc : '0' ≤ c ∧ c ≤ '9'
    · obtain ⟨x, mid, hsuffix, htakes⟩ := ih (some (value.getD 0 * 10 + (c.toNat - '0'.toNat)))
      refine ⟨x, mid, hsuffix.trans (List.suffix_cons c cs), fun fuel T hT hle => ?_⟩
      obtain ⟨more, rfl⟩ := Nat.exists_eq_add_of_le hle
      rw [List.length_cons, Nat.add_right_comm, List.cons_append, readDigits, if_pos hc]
      exact htakes _ T hT (Nat.le_add_right _ _)
    · refine ⟨value, c :: cs, List.suffix_refl _, fun fuel T hT hle => ?_⟩
      obtain ⟨more, rfl⟩ := Nat.exists_eq_add_of_le hle
      rw [List.length_cons, Nat.add_right_comm, List.cons_append, readDigits, if_neg hc]

theorem dropSpace_append (cs : List Char) :
    ∃ mid, mid <:+ cs ∧ ∀ fuel T, Ends T → cs.length ≤ fuel →
      dropSpace {} fuel (cs ++ T) = mid ++ T := by
  induction cs with
  | nil =>
    refine ⟨[], List.suffix_refl [], fun fuel T hT _ => ?_⟩
    cases fuel with
    | zero => rfl
    | succ fuel =>
      have hdollar : isBlank '$' = false := by decide
      have hclose : isBlank ')' = false := by decide
      cases hT <;> simp [dropSpace, hdollar, hclose]
  | cons c cs ih =>
    by_cases hc : isBlank c = true
    · obtain ⟨mid, hsuffix, htakes⟩ := ih
      refine ⟨mid, hsuffix.trans (List.suffix_cons c cs), fun fuel T hT hle => ?_⟩
      obtain ⟨more, rfl⟩ := Nat.exists_eq_add_of_le hle
      rw [List.length_cons, Nat.add_right_comm, List.cons_append, dropSpace, if_pos hc]
      exact htakes _ T hT (Nat.le_add_right _ _)
    · refine ⟨c :: cs, List.suffix_refl _, fun fuel T hT hle => ?_⟩
      obtain ⟨more, rfl⟩ := Nat.exists_eq_add_of_le hle
      rw [List.length_cons, Nat.add_right_comm, List.cons_append, dropSpace, if_neg hc]

theorem dropWhile_isBlank_append (cs : List Char) :
    ∃ mid, mid <:+ cs ∧ ∀ T, Ends T → (cs ++ T).dropWhile isBlank = mid ++ T := by
  induction cs with
  | nil =>
    have hdollar : isBlank '$' = false := by decide
    have hclose : isBlank ')' = false := by decide
    refine ⟨[], List.suffix_refl [], fun T hT => ?_⟩
    cases hT <;> simp [hdollar, hclose]
  | cons c cs ih =>
    by_cases hc : isBlank c = true
    · obtain ⟨mid, hsuffix, hdrop⟩ := ih
      refine ⟨mid, hsuffix.trans (List.suffix_cons c cs), fun T hT => ?_⟩
      rw [List.cons_append, List.dropWhile_cons, if_pos hc]
      exact hdrop T hT
    · refine ⟨c :: cs, List.suffix_refl _, fun T _ => ?_⟩
      rw [List.cons_append, List.dropWhile_cons, if_neg hc]

theorem local_readCount : Local (readCount {}) := by
  intro cs x r h
  obtain ⟨cs₁, hsuffix₁, hdrop⟩ := dropWhile_isBlank_append cs
  obtain ⟨value, cs₂, hsuffix₂, hdigits⟩ := readDigits_append none cs₁
  obtain ⟨mid, hsuffix, hspace⟩ := dropSpace_append cs₂
  have hread : ∀ T, Ends T → readCount {} (cs ++ T) =
      if value.getD 0 ≤ maxCount then .ok (value, mid ++ T) else .error .repetitionInvalid := by
    intro T hT
    have hlength : ∀ ds : List Char, ds.length ≤ (ds ++ T).length := fun ds => by simp
    simp only [readCount, hdrop T hT, hdigits _ T hT (hlength cs₁), hspace _ T hT (hlength cs₂)]
  rw [hread _ .dollar] at h
  obtain ⟨hle, hok⟩ := Except.ite_else_error_eq_ok.mp h
  cases hok
  refine ⟨mid, rfl, hsuffix.trans (hsuffix₂.trans hsuffix₁), fun T hT => ?_⟩
  rw [hread T hT, if_pos hle]

/-- The greatest count, which is the least one unless a comma stands behind that. -/
def readMost (least : Nat) : Reader (Option Nat)
  | ',' :: rest =>
    match rest with
    | '\x7d' :: rest => .ok (none, '\x7d' :: rest)
    | rest =>
      match readCount {} rest with
      | .ok (some most, rest) => .ok (some most, rest)
      | .ok (none, _) => .error .repetitionInvalid
      | .error e => .error e
  | rest => .ok (some least, rest)

/-- The end of the counts. -/
def closeCounts (least : Nat) (most : Option Nat) : Reader (Nat × Option Nat)
  | '\x7d' :: rest =>
    if most.all (least ≤ ·) then .ok ((least, most), skipLazy rest) else .error .repetitionInvalid
  | _ => .error .repetitionInvalid

theorem readMost_of_comma (least : Nat) {rest : List Char} (h : ∀ more, rest ≠ '\x7d' :: more) :
    readMost least (',' :: rest) =
      match readCount {} rest with
      | .ok (some most, rest) => .ok (some most, rest)
      | .ok (none, _) => .error .repetitionInvalid
      | .error e => .error e := by
  show (match rest with
    | '\x7d' :: rest => Except.ok (none, '\x7d' :: rest)
    | rest => _) = _
  split
  · exact absurd rfl (h _)
  · rfl

theorem readMost_of_not_comma (least : Nat) {rest : List Char} (h : ∀ more, rest ≠ ',' :: more) :
    readMost least rest = .ok (some least, rest) := by
  unfold readMost
  split
  · exact absurd rfl (h _)
  · rfl

theorem readCounts_eq (cs : List Char) :
    readCounts {} cs = readCount {} cs >>= fun r =>
      r.1.elim (.error .repetitionInvalid) .ok >>= fun least =>
        readMost least r.2 >>= fun r => closeCounts least r.1 r.2 := by
  rw [readCounts, skipBlanks_default]
  refine bind_congr fun r => bind_congr fun least => ?_
  obtain ⟨value, rest⟩ := r
  dsimp only
  split
  · rename_i rest
    rw [skipBlanks_default]
    split
    · rfl
    · rename_i hbrace
      rw [readMost_of_comma least fun more h => hbrace more h]
      cases readCount {} rest with
      | error e => rfl
      | ok r =>
        obtain ⟨most, left⟩ := r
        cases most <;> rfl
  · rename_i hcomma
    rw [readMost_of_not_comma least fun more h => hcomma more h]
    rfl

theorem local_readMost (least : Nat) : Local (readMost least) := by
  intro cs x r h
  cases cs with
  | nil =>
    cases h
    refine ⟨[], rfl, List.suffix_refl [], fun T hT => ?_⟩
    cases hT <;> rfl
  | cons c cs =>
    by_cases hc : c = ','
    · subst hc
      cases cs with
      | nil => cases h
      | cons d cs =>
        by_cases hd : d = '\x7d'
        · subst hd
          cases h
          exact ⟨'\x7d' :: cs, rfl, List.suffix_cons _ _, fun T _ => rfl⟩
        · have hread : ∀ T, readMost least (',' :: (d :: cs ++ T)) = _ := fun T =>
            readMost_of_comma least fun more heq => hd (List.cons.inj heq).1
          rw [List.cons_append, hread] at h
          split at h
          · rename_i most rest hcount
            cases h
            obtain ⟨mid, rfl, hsuffix, htakes⟩ := local_readCount (d :: cs) _ _ hcount
            refine ⟨mid, rfl, hsuffix.trans (List.suffix_cons _ _), fun T hT => ?_⟩
            rw [List.cons_append, hread, htakes T hT]
          · cases h
          · cases h
    · have hread : ∀ T, readMost least (c :: cs ++ T) = .ok (some least, c :: cs ++ T) := fun T =>
        readMost_of_not_comma least fun more heq => hc (List.cons.inj heq).1
      rw [hread] at h
      cases h
      exact ⟨c :: cs, rfl, List.suffix_refl _, fun T _ => hread T⟩

theorem skipLazy_append (cs : List Char) :
    ∃ mid, mid <:+ cs ∧ ∀ T, Ends T → skipLazy (cs ++ T) = mid ++ T := by
  cases cs with
  | nil =>
    refine ⟨[], List.suffix_refl [], fun T hT => ?_⟩
    cases hT <;> rfl
  | cons c cs =>
    by_cases hc : c = '?'
    · subst hc
      exact ⟨cs, List.suffix_cons _ _, fun T _ => rfl⟩
    · refine ⟨c :: cs, List.suffix_refl _, fun T _ => ?_⟩
      unfold skipLazy
      split
      · rename_i heq
        exact absurd (List.cons.inj heq).1 hc
      · rfl

theorem local_closeCounts (least : Nat) (most : Option Nat) : Local (closeCounts least most) := by
  intro cs x r h
  cases cs with
  | nil => cases h
  | cons c cs =>
    by_cases hc : c = '\x7d'
    · subst hc
      obtain ⟨mid, hsuffix, hlazy⟩ := skipLazy_append cs
      have hclose : ∀ T, Ends T → closeCounts least most ('\x7d' :: cs ++ T) =
          if most.all (least ≤ ·) then .ok ((least, most), mid ++ T)
          else .error .repetitionInvalid := by
        intro T hT
        rw [← hlazy T hT]
        rfl
      rw [hclose _ .dollar] at h
      obtain ⟨hle, hok⟩ := Except.ite_else_error_eq_ok.mp h
      cases hok
      refine ⟨mid, rfl, hsuffix.trans (List.suffix_cons _ _), fun T hT => ?_⟩
      rw [hclose T hT, if_pos hle]
    · unfold closeCounts at h
      split at h
      · rename_i heq
        exact absurd (List.cons.inj heq).1 hc
      · cases h

theorem local_readCounts : Local (readCounts {}) := by
  have h := local_readCount.bind fun least =>
    Local.check (least.elim (.error .repetitionInvalid) .ok) fun least =>
       (local_readMost least).bind fun most => local_closeCounts least most
  have hfun : readCounts {} = _ := funext readCounts_eq
  rw [hfun]
  exact h

/-! ## Properties and code points -/

theorem local_readBraced : Local fun cs => readBraced {} (cs.length + 1) [] cs := by
  intro cs x r h
  obtain ⟨mid, hmid, hsuffix, htakes⟩ := readBraced_append h
  exact ⟨mid, hmid, hsuffix, fun T _ => htakes _ T (by simp only [List.length_append]; omega)⟩

theorem local_readHexBraced : Local fun cs => readHexBraced {} (cs.length + 1) none cs := by
  intro cs x r h
  obtain ⟨mid, hmid, hsuffix, htakes⟩ := readHexBraced_append h
  exact ⟨mid, hmid, hsuffix, fun T _ => htakes _ T (by simp only [List.length_append]; omega)⟩

section
variable {flags : Flags}

/-- A dollar sign is no property. -/
theorem propertySet_dollar (negated : Bool) :
    propertySet flags negated ['$'] = .error .propertyUnknown := by
  have hsplit : splitProperty ['$'] = none := by decide
  have hnamed : Unicode.named? ['$'] = none := by decide +kernel
  simp [propertySet, hsplit, hnamed]

theorem local_readProperty (h : flags.ignoreBlanks = false) (negated : Bool) :
    Local (readProperty flags negated) := by
  intro cs
  cases cs with
  | nil =>
    intro s r hread
    rw [List.nil_append, readProperty, skipBlanks_plain h] at hread
    obtain ⟨s', hs', _⟩ := Except.bind_eq_ok.mp hread
    rw [propertySet_dollar] at hs'
    cases hs'
  | cons c cs =>
    by_cases hbrace : c = '\x7b'
    · subst hbrace
      have hlocal := local_readBraced.bind fun name =>
        Local.check (propertySet flags negated name) fun s => local_ok s
      refine .cons ((hlocal cs).congr fun T => ?_)
      simp only [readProperty, skipBlanks_plain h, readBraced_plain h]
    · by_cases hbackslash : c = '\\'
      · subst hbackslash
        refine .cons ((local_error .propertyUnknown cs).congr fun T => ?_)
        rw [readProperty, skipBlanks_plain h]
        rfl
      · have hlocal := Local.check (propertySet flags negated [c]) fun s => local_ok s
        refine .cons ((hlocal cs).congr fun T => ?_)
        rw [readProperty, skipBlanks_plain h]
        split
        · simp_all
        · simp_all
        · simp_all
        · rename_i heq
          obtain ⟨rfl, rfl⟩ := List.cons.inj heq
          rw [skipBlanks_plain h]

theorem local_readCode (h : flags.ignoreBlanks = false) {digits : Nat} (hdigits : 0 < digits) :
    Local (readCode flags digits) := by
  intro cs
  cases cs with
  | nil =>
    obtain ⟨digits, rfl⟩ := Nat.exists_eq_add_of_lt hdigits
    intro c r hread
    simp only [List.nil_append, readCode, skipBlanks_plain h, readHexDigits_plain h] at hread
    cases hread
  | cons c cs =>
    by_cases hbrace : c = '\x7b'
    · subst hbrace
      have hlocal := local_readHexBraced.bind fun n =>
        Local.check (charOfCode n) fun c => local_ok c
      refine .cons ((hlocal cs).congr fun T => ?_)
      simp only [readCode, skipBlanks_plain h, readHexBraced_plain h]
    · have hlocal := (local_readHexDigits digits 0).bind fun n =>
        Local.check (charOfCode n) fun c =>
          Local.ite (digits = 2 ∧ flags.unicode = false ∧ 0x80 ≤ n) (local_error .notText)
            (local_ok c)
      refine (hlocal (c :: cs)).congr fun T => ?_
      rw [readCode, skipBlanks_plain h]
      split
      · simp_all
      · simp_all
      · simp only [readHexDigits_plain h]

/-! ## Boundaries -/

theorem readBoundaryName_append (read cs : List Char) :
    ∃ name mid, mid <:+ cs ∧ ∀ fuel T, Ends T → cs.length ≤ fuel →
      readBoundaryName {} fuel read (cs ++ T) = (name, mid ++ T) := by
  induction cs generalizing read with
  | nil =>
    refine ⟨read.reverse, [], List.suffix_refl [], fun fuel T hT _ => ?_⟩
    cases fuel with
    | zero => rfl
    | succ fuel => cases hT <;> rfl
  | cons c cs ih =>
    by_cases hc : isBoundaryChar c = true
    · obtain ⟨name, mid, hsuffix, hname⟩ := ih (c :: read)
      refine ⟨name, mid, hsuffix.trans (List.suffix_cons c cs), fun fuel T hT hle => ?_⟩
      obtain ⟨more, rfl⟩ := Nat.exists_eq_add_of_le hle
      rw [List.length_cons, Nat.add_right_comm, List.cons_append, readBoundaryName, if_pos hc]
      exact hname _ T hT (Nat.le_add_right _ _)
    · refine ⟨read.reverse, c :: cs, List.suffix_refl _, fun fuel T _ hle => ?_⟩
      obtain ⟨more, rfl⟩ := Nat.exists_eq_add_of_le hle
      rw [List.length_cons, Nat.add_right_comm, List.cons_append, readBoundaryName, if_neg hc]

/-- The boundary that a name in braces stands for. -/
def specialBoundary (ascii : Bool) (name : List Char) : Except SyntaxError Look :=
  match String.ofList name with
  | "start" => .ok (.wordStart ascii)
  | "end" => .ok (.wordEnd ascii)
  | "start-half" => .ok (.wordStartHalf ascii)
  | "end-half" => .ok (.wordEndHalf ascii)
  | _ => .error .boundaryUnknown

/-- What stands behind the name of a boundary. -/
def closeBoundary (ascii : Bool) (name : List Char) : Reader Look
  | '\x7d' :: rest => specialBoundary ascii name >>= fun l => .ok (l, rest)
  | _ => .error .boundaryUnknown

theorem readBoundary_special (h : flags.ignoreBlanks = false) {c : Char}
    (hc : isBoundaryChar c = true) (more : List Char) :
    readBoundary flags ('\x7b' :: c :: more) =
      let r := readBoundaryName {} (more.length + 1) [] (c :: more)
      closeBoundary (!flags.unicode) r.1 r.2 := by
  rw [readBoundary, skipBlanks_plain h]
  simp only [hc, if_true, readBoundaryName_plain h]
  generalize readBoundaryName {} (more.length + 1) [] (c :: more) = r
  obtain ⟨name, rest⟩ := r
  dsimp only
  split
  · rename_i heq
    obtain ⟨rfl, rfl⟩ := Prod.mk.inj heq
    show _ = specialBoundary _ name >>= _
    split
    all_goals
      simp_all only [specialBoundary]
      rfl
  · rename_i hclose
    unfold closeBoundary
    split
    · exact absurd rfl (hclose _ _)
    · rfl

theorem readBoundary_brace (h : flags.ignoreBlanks = false) {c : Char}
    (hc : isBoundaryChar c = false) (more : List Char) :
    readBoundary flags ('\x7b' :: c :: more) =
      .ok (.wordBoundary !flags.unicode, '\x7b' :: c :: more) := by
  rw [readBoundary, skipBlanks_plain h]
  simp [hc]

theorem readBoundary_other {cs : List Char} (hcs : ∀ more, cs ≠ '\x7b' :: more) :
    readBoundary flags cs = .ok (.wordBoundary !flags.unicode, cs) := by
  unfold readBoundary
  split
  · exact absurd rfl (hcs _)
  · rfl

theorem local_closeBoundary (ascii : Bool) (name : List Char) :
    Local (closeBoundary ascii name) := by
  intro cs
  cases cs with
  | nil => exact nofun
  | cons c cs =>
    by_cases hc : c = '\x7d'
    · subst hc
      exact .cons (Local.check (specialBoundary ascii name) (fun l => local_ok l) cs)
    · refine (local_error .boundaryUnknown (c :: cs)).congr fun T => ?_
      unfold closeBoundary
      split
      · rename_i heq
        exact absurd (List.cons.inj heq).1 hc
      · rfl

/-- A boundary is read alike whatever stands behind the text, unless the text is one
opening brace: that could start a name or, in front of nothing, is refused. -/
theorem local_readBoundary (h : flags.ignoreBlanks = false) {cs : List Char}
    (hcs : cs ≠ ['\x7b']) : LocalAt (readBoundary flags) cs := by
  have hother : (∀ T, Ends T → ∀ more, cs ++ T ≠ '\x7b' :: more) →
      LocalAt (readBoundary flags) cs := by
    intro hne l r hread
    rw [readBoundary_other (hne _ .dollar)] at hread
    cases hread
    exact ⟨cs, rfl, List.suffix_refl cs, fun T hT => readBoundary_other (hne T hT)⟩
  match cs, hcs with
  | [], _ =>
    refine hother fun T hT more heq => ?_
    rcases hT.head heq with hc | hc <;> cases hc
  | c :: cs, hcs =>
    by_cases hc : c = '\x7b'
    · subst hc
      match cs, hcs with
      | [], hcs => exact absurd rfl hcs
      | d :: cs, _ =>
        by_cases hd : isBoundaryChar d = true
        · obtain ⟨name, mid, hsuffix, hname⟩ := readBoundaryName_append [] (d :: cs)
          have hread : ∀ T, Ends T → readBoundary flags ('\x7b' :: d :: cs ++ T) =
              closeBoundary (!flags.unicode) name (mid ++ T) := by
            intro T hT
            have hT' := hname ((cs ++ T).length + 1) T hT (by simp)
            rw [List.cons_append, List.cons_append, readBoundary_special h hd, ← List.cons_append,
              hT']
          intro l r hok
          rw [hread _ .dollar] at hok
          obtain ⟨mid', rfl, hsuffix', htakes⟩ := local_closeBoundary _ _ mid l r hok
          refine ⟨mid', rfl, hsuffix'.trans (hsuffix.trans (List.suffix_cons _ _)), fun T hT => ?_⟩
          rw [hread T hT, htakes T hT]
        · have hd := Bool.eq_false_iff.mpr hd
          intro l r hok
          rw [List.cons_append, List.cons_append, readBoundary_brace h hd] at hok
          cases hok
          exact ⟨_, rfl, List.suffix_refl _, fun T _ => readBoundary_brace h hd _⟩
    · exact hother fun T _ more heq => hc (List.cons.inj heq).1

/-! ## Escape sequences by their letter -/

end

/-- What the letter of an escape sequence asks for. -/
inductive Escape where
  | bad (e : SyntaxError)
  | char (c : Char)
  /-- A class that the flags decide. -/
  | letter (c : Char)
  /-- An assertion, of ASCII characters or of any. -/
  | look (l : Bool → Look)
  /-- A code point of so many digits and one more. -/
  | code (digits : Nat)
  | property (negated : Bool)
  | boundary

namespace Escape

/-- The escape sequence that starts with a letter. -/
def ofChar (c : Char) : Escape :=
  if c.isDigit then bad .backreference
  else if isEscapable c then char c
  else match c with
    | 'x' => code 1
    | 'u' => code 3
    | 'U' => code 7
    | 'p' => property false
    | 'P' => property true
    | 'd' | 's' | 'w' | 'D' | 'S' | 'W' => letter c
    | 'a' => char '\x07'
    | 'f' => char '\x0c'
    | 't' => char '\t'
    | 'n' => char '\n'
    | 'r' => char '\r'
    | 'v' => char '\x0b'
    | 'A' => look fun _ => .textStart
    | 'z' => look fun _ => .textEnd
    | 'b' => boundary
    | 'B' => look .notWordBoundary
    | '<' => look .wordStart
    | '>' => look .wordEnd
    | _ => bad .escapeUnknown

/-- Reads what stands behind the letter. -/
def read (flags : Flags) : Escape → Reader Escaped
  | bad e, _ => .error e
  | char c, rest => .ok (.char c, rest)
  | letter c, rest => (letterClass flags c).map fun s => (.set s, rest)
  | look l, rest => .ok (.look (l !flags.unicode), rest)
  | code digits, rest => (readCode flags (digits + 1) rest).map fun r => (.char r.1, r.2)
  | property negated, rest => (readProperty flags negated rest).map fun r => (.set r.1, r.2)
  | boundary, rest => (readBoundary flags rest).map fun r => (.look r.1, r.2)

end Escape

section
variable {flags : Flags}

theorem readEscape_cons (c : Char) (rest : List Char) :
    readEscape flags (c :: rest) = (Escape.ofChar c).read flags rest := by
  unfold readEscape
  dsimp only
  fun_cases Escape.ofChar c
  case case1 hdigit => rw [if_pos hdigit, Escape.read]
  case case2 hdigit hescapable => rw [if_neg hdigit, if_pos hescapable, Escape.read]
  case case26 =>
    -- A letter that is none of those listed.
    simp only [*, Bool.false_eq_true, if_false, Escape.read]
  all_goals rfl

/-- An escape sequence is read alike whatever stands behind the text, unless it is a
boundary in front of a last opening brace. -/
theorem local_readEscape (h : flags.ignoreBlanks = false) (c : Char) {cs : List Char}
    (hcs : Escape.ofChar c = .boundary → cs ≠ ['\x7b']) :
    LocalAt (readEscape flags) (c :: cs) := by
  have hlocal : LocalAt ((Escape.ofChar c).read flags) cs := by
    cases hform : Escape.ofChar c with
    | bad e => exact local_error e cs
    | char d => exact local_ok _ cs
    | letter d =>
      have hclass : LocalAt (fun rest => (letterClass flags d).map fun s => (Escaped.set s, rest))
          cs := by
        cases letterClass flags d with
        | error e => exact local_error e cs
        | ok s => exact local_ok _ cs
      exact hclass.congr fun T => rfl
    | look l => exact local_ok _ cs
    | code digits => exact (local_readCode h (Nat.succ_pos digits) cs).map _
    | property negated => exact (local_readProperty h negated cs).map _
    | boundary => exact (local_readBoundary h (hcs hform)).map _
  exact .cons (hlocal.congr fun T => readEscape_cons c _)

end

end AccessDecision.Regex
