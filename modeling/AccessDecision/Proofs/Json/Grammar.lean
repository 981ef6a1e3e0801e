import AccessDecision.Json.Reader
import AccessDecision.Proofs.Except
import Mathlib.Data.List.TakeWhile

/-
  The grammar of strings, lists and objects

  `StringText s t` says that the text `t` writes the string `s` in JSON, and
  `ListText` and `ObjectText` say the same of lists and objects, given what their
  elements and members are written as. An object writes its members one by one, a
  name as often as it occurs. `Exact` says of a reader that it succeeds exactly on
  the texts of a grammar, and leaves unread what stands behind them. A reader of
  values without a closing sign does so only where a value can end (`ExactWithin`).

  What is proved:
    1. `exact_readStringValue` — strings are read exactly.
-/

namespace AccessDecision.Json

/-! ## The grammar -/

/-- White space, or nothing. -/
def Blank (w : List Char) : Prop := ∀ c ∈ w, isSpace c = true

/-- The number that four hexadecimal digits write. -/
inductive Hex4 : List Char → Nat → Prop where
  | digits {a b c d : Char} {x y z w : Nat} :
      hexDigit? a = some x → hexDigit? b = some y → hexDigit? c = some z →
      hexDigit? d = some w → Hex4 [a, b, c, d] (((x * 16 + y) * 16 + z) * 16 + w)

/-- The code point that a leading and a trailing surrogate stand for. -/
def pairCode (lead trail : Nat) : Nat := (lead - 0xD800) * 0x400 + (trail - 0xDC00) + 0x10000

/-- The spellings of a character in a string: as it is, by a short escape, or by its
code point, which beyond the first plane is written as two surrogates. -/
inductive CharText : Char → List Char → Prop where
  | plain {c : Char} : c ≠ '"' → c ≠ '\\' → 0x20 ≤ c.toNat → CharText c [c]
  | short {letter c : Char} : shortEscape? letter = some c → CharText c ['\\', letter]
  | code {digits : List Char} {n : Nat} : Hex4 digits n → ¬ (0xD800 ≤ n ∧ n ≤ 0xDFFF) →
      CharText (charOf n) ('\\' :: 'u' :: digits)
  | pair {digits digits' : List Char} {n m : Nat} : Hex4 digits n → Hex4 digits' m →
      0xD800 ≤ n → n ≤ 0xDBFF → 0xDC00 ≤ m → m ≤ 0xDFFF →
      CharText (charOf (pairCode n m))
        ('\\' :: 'u' :: (digits ++ '\\' :: 'u' :: digits'))

/-- Characters, one after the other. -/
inductive CharsText : List Char → List Char → Prop where
  | nil : CharsText [] []
  | cons {c : Char} {cs t ts : List Char} : CharText c t → CharsText cs ts →
      CharsText (c :: cs) (t ++ ts)

/-- A string in quotes. -/
def StringText (s : String) (t : List Char) : Prop :=
  ∃ body, CharsText s.toList body ∧ t = '"' :: (body ++ ['"'])

section
variable {α : Type}

/-- Further elements, each with a comma before it. -/
inductive Followers (P : α → List Char → Prop) : List α → List Char → Prop where
  | nil : Followers P [] []
  | cons {x : α} {xs : List α} {w w' t ts : List Char} : Blank w → Blank w' → P x t →
      Followers P xs ts → Followers P (x :: xs) (w ++ ',' :: (w' ++ (t ++ ts)))

/-- Elements between two signs, with commas between them. -/
inductive Enclosed (opening closing : Char) (P : α → List Char → Prop) :
    List α → List Char → Prop where
  | nil {w : List Char} : Blank w → Enclosed opening closing P [] (opening :: (w ++ [closing]))
  | cons {x : α} {xs : List α} {w w' t ts : List Char} : Blank w → P x t → Followers P xs ts →
      Blank w' →
      Enclosed opening closing P (x :: xs) (opening :: (w ++ (t ++ (ts ++ (w' ++ [closing])))))

/-- A list, given how its elements are written. -/
def ListText (P : α → List Char → Prop) : List α → List Char → Prop := Enclosed '[' ']' P

/-- A member of an object: its name, a colon and its value. -/
def MemberText (P : α → List Char → Prop) (m : String × α) (t : List Char) : Prop :=
  ∃ name w w' value, StringText m.1 name ∧ Blank w ∧ Blank w' ∧ P m.2 value ∧
    t = name ++ (w ++ ':' :: (w' ++ value))

/-- An object, given how its values are written. -/
def ObjectText (P : α → List Char → Prop) : List (String × α) → List Char → Prop :=
  Enclosed '\x7b' '\x7d' (MemberText P)

/-- A value with white space around it. -/
def DocumentText (P : α → List Char → Prop) (x : α) (t : List Char) : Prop :=
  ∃ w value w', Blank w ∧ P x value ∧ Blank w' ∧ t = w ++ (value ++ w')

/-- A reader succeeds exactly on the texts of a grammar, with white space before them
and anything behind them. -/
def Exact (read : Reader α) (P : α → List Char → Prop) : Prop :=
  ∀ cs x rest, read cs = .ok (x, rest) ↔ ∃ w t, Blank w ∧ P x t ∧ cs = w ++ (t ++ rest)

/-- A value can end before this text. -/
def Ends (rest : List Char) : Prop :=
  ∀ c, rest.head? = some c → isSpace c = true ∨ c = ',' ∨ c = ']' ∨ c = '\x7d'

/-- A reader takes only texts of a grammar, and takes each of them if a value can end
before what stands behind it. -/
structure ExactWithin (read : Reader α) (P : α → List Char → Prop) : Prop where
  sound : ∀ {cs : List Char} {x : α} {rest : List Char}, read cs = .ok (x, rest) →
    ∃ w t, Blank w ∧ P x t ∧ cs = w ++ (t ++ rest)
  complete : ∀ {w t rest : List Char} {x : α}, Blank w → P x t → Ends rest →
    read (w ++ (t ++ rest)) = .ok (x, rest)

theorem Exact.within {read : Reader α} {P : α → List Char → Prop} (h : Exact read P) :
    ExactWithin read P where
  sound := (h _ _ _).mp
  complete := fun hw ht _ => (h _ _ _).mpr ⟨_, _, hw, ht, rfl⟩

/-- Every text of the grammar starts with a quote, a bracket or a brace. -/
def Delimited (P : α → List Char → Prop) : Prop :=
  ∀ x t, P x t → ∃ c t', t = c :: t' ∧ (c = '"' ∨ c = '[' ∨ c = '\x7b')

end

/-! ## White space -/

theorem Blank.nil : Blank [] := fun _ h => nomatch h

/-- White space is skipped up to the first other character. -/
theorem skipSpace_blank {w cs : List Char} (hw : Blank w) : skipSpace (w ++ cs) = skipSpace cs :=
  List.dropWhile_append_of_pos hw

theorem skipSpace_cons {c : Char} {cs : List Char} (hc : isSpace c = false) :
    skipSpace (c :: cs) = c :: cs := by
  simp [skipSpace, hc]

/-- What is skipped is white space. -/
theorem eq_blank_append_skipSpace (cs : List Char) : ∃ w, Blank w ∧ cs = w ++ skipSpace cs :=
  ⟨cs.takeWhile isSpace, fun _ hc => List.mem_takeWhile_imp hc,
    List.takeWhile_append_dropWhile.symm⟩

theorem skipSpace_eq_cons {c : Char} {cs rest : List Char} (h : skipSpace cs = c :: rest) :
    ∃ w, Blank w ∧ cs = w ++ c :: rest := by
  obtain ⟨w, hw, hcs⟩ := eq_blank_append_skipSpace cs
  exact ⟨w, hw, h ▸ hcs⟩

theorem skipSpace_eq_nil {cs : List Char} : skipSpace cs = [] ↔ Blank cs := by
  simp [skipSpace, Blank, List.dropWhile_eq_nil_iff]

theorem ends_nil : Ends [] := fun _ h => nomatch h

/-- A value can end before white space with a sign behind it that may follow a
value. -/
theorem ends_blank_append {w : List Char} (hw : Blank w) {c : Char}
    (hc : c = ',' ∨ c = ']' ∨ c = '\x7d') (rest : List Char) : Ends (w ++ c :: rest) := by
  intro d hd
  cases w with
  | nil => exact .inr (Option.some.inj hd ▸ hc)
  | cons b w => exact .inl (Option.some.inj hd ▸ hw b List.mem_cons_self)

/-! ## Strings -/

theorem readHex4_eq_ok {cs rest : List Char} {n : Nat} :
    readHex4 cs = .ok (n, rest) ↔ ∃ digits, Hex4 digits n ∧ cs = digits ++ rest := by
  constructor
  · intro h
    unfold readHex4 at h
    split at h
    · split at h
      · rename_i hx hy hz hw
        cases h
        exact ⟨_, .digits hx hy hz hw, rfl⟩
      · cases h
    · split at h <;> cases h
  · intro h
    obtain ⟨digits, ⟨hx, hy, hz, hw⟩, rfl⟩ := h
    simp only [List.cons_append, List.nil_append, readHex4, hx, hy, hz, hw]

theorem readTrailing_eq_ok {cs rest : List Char} {n : Nat} {c : Char} :
    readTrailing n cs = .ok (c, rest) ↔
      ∃ digits m, Hex4 digits m ∧ 0xDC00 ≤ m ∧ m ≤ 0xDFFF ∧
        c = charOf (pairCode n m) ∧
        cs = '\\' :: 'u' :: (digits ++ rest) := by
  constructor
  · intro h
    unfold readTrailing at h
    split at h
    · obtain ⟨⟨m, rest'⟩, hm, hchar⟩ := Except.bind_eq_ok.mp h
      obtain ⟨digits, hdigits, hcs⟩ := readHex4_eq_ok.mp hm
      obtain ⟨hrange, hok⟩ := Except.ite_else_error_eq_ok.mp hchar
      obtain ⟨hc, hrest⟩ := Prod.mk.inj (Except.ok.inj hok)
      subst hrest hcs
      exact ⟨digits, m, hdigits, hrange.1, hrange.2, hc.symm, rfl⟩
    · cases h
    · cases h
    · cases h
  · intro h
    obtain ⟨digits, m, hdigits, hlo, hhi, hc, hcs⟩ := h
    rw [hcs, hc, readTrailing, readHex4_eq_ok.mpr ⟨digits, hdigits, rfl⟩, Except.ok_bind]
    exact if_pos ⟨hlo, hhi⟩

theorem readUnicode_eq_ok {cs rest : List Char} {c : Char} :
    readUnicode cs = .ok (c, rest) ↔ ∃ t, CharText c ('\\' :: 'u' :: t) ∧ cs = t ++ rest := by
  constructor
  · intro h
    obtain ⟨⟨n, rest'⟩, hn, hchar⟩ := Except.bind_eq_ok.mp h
    obtain ⟨digits, hdigits, rfl⟩ := readHex4_eq_ok.mp hn
    obtain ⟨htrailing, hok⟩ := Except.ite_error_eq_ok.mp hchar
    split at hok
    · rename_i hleading
      obtain ⟨digits', m, hdigits', hlo, hhi, hc, hcs⟩ := readTrailing_eq_ok.mp hok
      refine ⟨digits ++ '\\' :: 'u' :: digits', ?_, by rw [hcs]; simp⟩
      exact hc ▸ .pair hdigits hdigits' hleading.1 hleading.2 hlo hhi
    · rename_i hleading
      cases hok
      exact ⟨digits, .code hdigits fun hsurrogate => by omega, rfl⟩
  · intro h
    obtain ⟨t, ht, rfl⟩ := h
    cases ht with
    | short hshort => cases hshort
    | code hdigits hrange =>
      rw [readUnicode, readHex4_eq_ok.mpr ⟨t, hdigits, rfl⟩, Except.ok_bind]
      exact (if_neg (by omega)).trans (if_neg (by omega))
    | @pair digits digits' n m hdigits hdigits' hn hn' hm hm' =>
      rw [readUnicode, readHex4_eq_ok.mpr ⟨digits, hdigits, List.append_assoc _ _ _⟩,
        Except.ok_bind]
      refine (if_neg (by omega)).trans ((if_pos ⟨hn, hn'⟩).trans ?_)
      exact readTrailing_eq_ok.mpr ⟨digits', m, hdigits', hm, hm', rfl, rfl⟩

theorem readChar_unicode {cs rest : List Char} {c : Char} (h : readUnicode cs = .ok (c, rest)) :
    readChar ('\\' :: 'u' :: cs) = .ok (some c, rest) := by
  rw [readChar, h]
  rfl

theorem readChar_eq_some {cs rest : List Char} {c : Char} :
    readChar cs = .ok (some c, rest) ↔ ∃ t, CharText c t ∧ cs = t ++ rest := by
  constructor
  · intro h
    unfold readChar at h
    split at h
    · cases h
    · cases h
    · cases h
    · obtain ⟨⟨d, rest'⟩, hd, hok⟩ := Except.bind_eq_ok.mp h
      cases hok
      obtain ⟨t, ht, rfl⟩ := readUnicode_eq_ok.mp hd
      exact ⟨_, ht, rfl⟩
    · split at h
      · rename_i hshort
        cases h
        exact ⟨_, .short hshort, rfl⟩
      · cases h
    · rename_i d rest' hquote hlone hunicode hescape
      obtain ⟨hcontrol, hok⟩ := Except.ite_error_eq_ok.mp h
      cases hok
      refine ⟨[c], .plain hquote (fun hc => ?_) (Nat.le_of_not_lt hcontrol), rfl⟩
      cases rest with
      | nil => exact hlone hc rfl
      | cons e rest => exact hescape e rest hc rfl
  · intro h
    obtain ⟨t, ht, rfl⟩ := h
    cases ht with
    | plain hquote hbackslash hcontrol =>
      rw [List.singleton_append]
      unfold readChar
      split
      · simp_all
      · simp_all
      · simp_all
      · simp_all
      · simp_all
      · rw [if_neg (by simp_all)]
        simp_all
    | @short letter c hshort =>
      have hletter : letter ≠ 'u' := by
        intro h
        rw [h] at hshort
        cases hshort
      show readChar ('\\' :: letter :: rest) = _
      rw [readChar]
      · simp only [hshort]
      · exact hletter
    | @code digits n hdigits hrange =>
      exact readChar_unicode (readUnicode_eq_ok.mpr ⟨digits, .code hdigits hrange, rfl⟩)
    | @pair digits digits' n m hdigits hdigits' hn hn' hm hm' =>
      exact readChar_unicode (readUnicode_eq_ok.mpr ⟨_, .pair hdigits hdigits' hn hn' hm hm', rfl⟩)

theorem readChar_eq_none {cs rest : List Char} :
    readChar cs = .ok (none, rest) ↔ cs = '"' :: rest := by
  constructor
  · intro h
    unfold readChar at h
    split at h
    · cases h
    · cases h
      rfl
    · cases h
    · obtain ⟨⟨d, rest'⟩, _, hok⟩ := Except.bind_eq_ok.mp h
      cases hok
    · split at h <;> cases h
    · obtain ⟨_, hok⟩ := Except.ite_error_eq_ok.mp h
      cases hok
  · intro h
    subst h
    rfl

theorem CharText.ne_nil {c : Char} {t : List Char} (h : CharText c t) : t ≠ [] := by
  cases h <;> exact List.cons_ne_nil _ _

/-- What is read so far, latest first, stands in front of the characters up to the
quote. -/
theorem readChars_eq_ok {fuel : Nat} {read cs chars rest : List Char} (hfuel : cs.length < fuel) :
    readChars fuel read cs = .ok (chars, rest) ↔
      ∃ more body, CharsText more body ∧ chars = read.reverse ++ more ∧
        cs = body ++ '"' :: rest := by
  induction fuel generalizing read cs with
  | zero => exact absurd hfuel (Nat.not_lt_zero _)
  | succ fuel ih =>
    rw [readChars]
    constructor
    · intro h
      split at h
      · cases h
      · rename_i hquote
        cases h
        exact ⟨[], [], .nil, (List.append_nil _).symm, readChar_eq_none.mp hquote⟩
      · rename_i c rest' hchar
        obtain ⟨t, ht, rfl⟩ := readChar_eq_some.mp hchar
        have hpos := List.length_pos_iff.mpr ht.ne_nil
        rw [List.length_append] at hfuel
        obtain ⟨more, body, hbody, hchars, rfl⟩ := (ih (by omega)).mp h
        exact ⟨c :: more, t ++ body, .cons ht hbody, by simp [hchars], by simp⟩
    · intro h
      obtain ⟨more, body, hbody, rfl, rfl⟩ := h
      cases hbody with
      | nil =>
        rw [List.nil_append, readChar_eq_none.mpr rfl, List.append_nil]
      | @cons c more t body ht hbody =>
        have hpos := List.length_pos_iff.mpr ht.ne_nil
        simp only [List.append_assoc, List.length_append] at hfuel ⊢
        rw [readChar_eq_some.mpr ⟨t, ht, rfl⟩]
        refine (ih ?_).mpr ⟨more, body, hbody, by simp, rfl⟩
        simp only [List.length_append]
        omega

theorem readString_eq_ok {cs rest : List Char} {s : String} :
    readString cs = .ok (s, rest) ↔ ∃ body, CharsText s.toList body ∧ cs = body ++ '"' :: rest := by
  constructor
  · intro h
    obtain ⟨⟨chars, rest'⟩, hchars, hok⟩ := Except.bind_eq_ok.mp h
    cases hok
    obtain ⟨more, body, hbody, rfl, rfl⟩ := (readChars_eq_ok (Nat.lt_succ_self _)).mp hchars
    exact ⟨body, by simpa using hbody, rfl⟩
  · intro h
    obtain ⟨body, hbody, rfl⟩ := h
    have hchars : readChars ((body ++ '"' :: rest).length + 1) [] (body ++ '"' :: rest) =
        .ok (s.toList, rest) :=
      (readChars_eq_ok (Nat.lt_succ_self _)).mpr ⟨s.toList, body, hbody, rfl, rfl⟩
    rw [readString, hchars, Except.ok_bind]
    simp

/-- A value of the wrong kind is never taken. -/
theorem wrongType_ne_ok {α : Type} (expected : Shape) (cs : List Char) (x : α) :
    wrongType expected cs ≠ .ok x := by
  have hnumber : ∀ n : Number, wrongType.number (α := α) expected n ≠ .ok x := by
    intro n
    cases n <;> exact nofun
  intro h
  unfold wrongType at h
  split at h
  · obtain ⟨_, _, h⟩ := Except.bind_eq_ok.mp h
    cases h
  · obtain ⟨_, _, h⟩ := Except.bind_eq_ok.mp h
    cases h
  · obtain ⟨_, _, h⟩ := Except.bind_eq_ok.mp h
    cases h
  · obtain ⟨_, _, h⟩ := Except.bind_eq_ok.mp h
    cases h
  · cases h
  · cases h
  · obtain ⟨r, _, h⟩ := Except.bind_eq_ok.mp h
    exact hnumber r.1 h
  · split at h
    · obtain ⟨r, _, h⟩ := Except.bind_eq_ok.mp h
      exact hnumber r.1 h
    · cases h
  · cases h

theorem exact_readStringValue : Exact readStringValue StringText := by
  intro cs s rest
  constructor
  · intro h
    unfold readStringValue at h
    split at h
    · cases h
    · rename_i hskip
      obtain ⟨w, hw, rfl⟩ := skipSpace_eq_cons hskip
      obtain ⟨body, hbody, rfl⟩ := readString_eq_ok.mp h
      exact ⟨w, _, hw, ⟨body, hbody, rfl⟩, by simp⟩
    · exact absurd h (wrongType_ne_ok _ _ _)
  · intro h
    obtain ⟨w, t, hw, ⟨body, hbody, rfl⟩, rfl⟩ := h
    have hskip : skipSpace (w ++ ('"' :: (body ++ ['"']) ++ rest)) =
        '"' :: (body ++ '"' :: rest) := by
      rw [skipSpace_blank hw, List.cons_append, skipSpace_cons (by decide)]
      simp
    rw [readStringValue, hskip]
    exact readString_eq_ok.mpr ⟨body, hbody, rfl⟩

theorem delimited_stringText : Delimited StringText := by
  intro s t h
  obtain ⟨body, _, rfl⟩ := h
  exact ⟨'"', _, rfl, .inl rfl⟩

end AccessDecision.Json
