import AccessDecision.Proofs.Json.Grammar

/-
  Lists and objects are read exactly

  What follows an element is either another element behind a comma or the closing
  sign, so a list or an object is read to its own end whatever stands behind it.

  What is proved:
    1. `exact_readList` and `exact_readObject` — if the elements or values are read
       exactly, so are lists and objects of them. In an object it is enough that they
       are where a value can end.
    2. `readObject_forall` — what holds of every value that is read holds of the
       values of an object.
    3. `readText_eq_ok` — a whole text is read exactly if it is such a text with
       white space around it (`DocumentText`).
-/

namespace AccessDecision.Json

/-! ## Lists -/

section
variable {α : Type} {P : α → List Char → Prop}

theorem Blank.append {w w' : List Char} (hw : Blank w) (hw' : Blank w') : Blank (w ++ w') := by
  intro c hc
  rcases List.mem_append.mp hc with hc | hc
  · exact hw c hc
  · exact hw' c hc

/-- A delimited text starts with a character that is no white space and closes
nothing. -/
theorem Delimited.skip (hP : Delimited P) {x : α} {w t : List Char} (hw : Blank w) (ht : P x t)
    (rest : List Char) :
    ∃ c t', t = c :: t' ∧ c ≠ ']' ∧ c ≠ '\x7d' ∧
      skipSpace (w ++ (t ++ rest)) = c :: (t' ++ rest) := by
  obtain ⟨c, t', rfl, hc⟩ := hP x t ht
  have hspace : isSpace c = false := by rcases hc with rfl | rfl | rfl <;> decide
  refine ⟨c, t', rfl, ?_, ?_, ?_⟩
  · rcases hc with rfl | rfl | rfl <;> decide
  · rcases hc with rfl | rfl | rfl <;> decide
  · rw [skipSpace_blank hw, List.cons_append, skipSpace_cons hspace]

theorem Delimited.ne_nil (hP : Delimited P) {x : α} {t : List Char} (ht : P x t) : t ≠ [] := by
  obtain ⟨c, t', rfl, _⟩ := hP x t ht
  exact List.cons_ne_nil c t'

/-- Where a list goes on, its first element follows, or a comma and its next. -/
theorem moreElements_eq_true {first : Bool} {cs rest : List Char}
    (h : moreElements first cs = .ok (true, rest)) :
    (first = true ∧ ∃ w, Blank w ∧ cs = w ++ rest) ∨
    (first = false ∧ ∃ w w', Blank w ∧ Blank w' ∧ cs = w ++ ',' :: (w' ++ rest)) := by
  unfold moreElements at h
  split at h
  · cases h
  · cases h
  · rename_i c more hclose hskip
    obtain ⟨w, hw, rfl⟩ := skipSpace_eq_cons hskip
    split at h
    · rename_i hfirst
      cases h
      exact .inl ⟨hfirst, w, hw, rfl⟩
    · rename_i hfirst
      obtain ⟨rfl, hnext⟩ := Except.ite_else_error_eq_ok.mp h
      obtain ⟨w', hw', hmore⟩ := eq_blank_append_skipSpace more
      refine .inr ⟨by simpa using hfirst, w, w', hw, hw', ?_⟩
      split at hnext
      · cases hnext
      · cases hnext
      · cases hnext
        rw [← hmore]

theorem moreElements_eq_false {first : Bool} {cs rest : List Char} :
    moreElements first cs = .ok (false, rest) ↔
      ∃ w rest', Blank w ∧ cs = w ++ rest ∧ rest = ']' :: rest' := by
  constructor
  · intro h
    unfold moreElements at h
    split at h
    · cases h
    · rename_i hskip
      cases h
      obtain ⟨w, hw, hcs⟩ := skipSpace_eq_cons hskip
      exact ⟨w, _, hw, hcs, rfl⟩
    · split at h
      · cases h
      · obtain ⟨_, hnext⟩ := Except.ite_else_error_eq_ok.mp h
        split at hnext <;> cases hnext
  · intro h
    obtain ⟨w, rest', hw, rfl, rfl⟩ := h
    rw [moreElements, skipSpace_blank hw, skipSpace_cons (by decide)]
    rfl

theorem moreElements_first (hP : Delimited P) {x : α} {w t : List Char} (hw : Blank w) (ht : P x t)
    (rest : List Char) : moreElements true (w ++ (t ++ rest)) = .ok (true, t ++ rest) := by
  obtain ⟨c, t', rfl, hclose, _, hskip⟩ := hP.skip hw ht rest
  rw [moreElements, hskip]
  split
  · simp_all
  · simp_all
  · simp_all

theorem moreElements_next (hP : Delimited P) {x : α} {w w' t : List Char} (hw : Blank w)
    (hw' : Blank w') (ht : P x t) (rest : List Char) :
    moreElements false (w ++ ',' :: (w' ++ (t ++ rest))) = .ok (true, t ++ rest) := by
  obtain ⟨c, t', rfl, hclose, _, hskip⟩ := hP.skip hw' ht rest
  rw [moreElements, skipSpace_blank hw, skipSpace_cons (by decide)]
  split
  · rename_i hnil
    cases hnil
  · rename_i hcons
    exact absurd (List.cons.inj hcons).1 (by decide)
  · -- The comma is there, so what stands behind its blanks decides.
    rename_i hcons
    obtain ⟨rfl, rfl⟩ := List.cons.inj hcons
    rw [if_neg Bool.false_ne_true, if_pos rfl, hskip]
    split
    · simp_all
    · simp_all
    · simp_all

variable {element : Reader α}

/-- Behind an element, what follows is read up to the closing bracket. -/
theorem readElements_eq_ok (hread : Exact element P) (hP : Delimited P) {fuel : Nat}
    {read xs : List α} {cs rest : List Char} (hfuel : cs.length < fuel) :
    readElements element fuel false read cs = .ok (xs, rest) ↔
      ∃ more ts w rest', Followers P more ts ∧ Blank w ∧ xs = read.reverse ++ more ∧
        rest = ']' :: rest' ∧ cs = ts ++ (w ++ rest) := by
  induction fuel generalizing read cs with
  | zero => exact absurd hfuel (Nat.not_lt_zero _)
  | succ fuel ih =>
    rw [readElements]
    constructor
    · intro h
      split at h
      · cases h
      · rename_i hmore
        cases h
        obtain ⟨w, rest', hw, rfl, hrest⟩ := moreElements_eq_false.mp hmore
        exact ⟨[], [], w, rest', .nil, hw, (List.append_nil _).symm, hrest, rfl⟩
      · rename_i mid hmore
        split at h
        · cases h
        · rename_i x mid' hx
          obtain ⟨w₀, t, hw₀, ht, rfl⟩ := (hread _ _ _).mp hx
          rcases moreElements_eq_true hmore with ⟨hfirst, _⟩ | ⟨_, w, w', hw, hw', rfl⟩
          · cases hfirst
          · simp only [List.length_append, List.length_cons] at hfuel
            obtain ⟨more, ts, w'', rest', hts, hw'', hxs, hrest, rfl⟩ := (ih (by omega)).mp h
            exact ⟨x :: more, w ++ ',' :: (w' ++ w₀ ++ (t ++ ts)), w'', rest',
              .cons hw (hw'.append hw₀) ht hts, hw'', by simp [hxs], hrest, by simp⟩
    · intro h
      obtain ⟨more, ts, w, rest', hts, hw, rfl, rfl, rfl⟩ := h
      cases hts with
      | nil =>
        rw [List.nil_append, moreElements_eq_false.mpr ⟨w, rest', hw, rfl, rfl⟩]
        simp
      | @cons x more w₀ w' t ts hw₀ hw' ht hts =>
        simp only [List.append_assoc, List.cons_append, List.length_append, List.length_cons]
          at hfuel ⊢
        have hx : element (t ++ (ts ++ (w ++ ']' :: rest'))) =
            .ok (x, ts ++ (w ++ ']' :: rest')) := (hread _ _ _).mpr ⟨[], t, .nil, ht, rfl⟩
        simp only [moreElements_next hP hw₀ hw' ht, hx]
        refine (ih ?_).mpr ⟨more, ts, w, rest', hts, hw, by simp, rfl, rfl⟩
        simp only [List.length_append, List.length_cons]
        omega

/-- What is read behind the opening bracket is the rest of a list. -/
theorem readListBody_eq_ok (hread : Exact element P) (hP : Delimited P) {xs : List α}
    {cs rest : List Char} :
    readListBody element cs = .ok (xs, rest) ↔
      ∃ t, ListText P xs ('[' :: t) ∧ cs = t ++ rest := by
  constructor
  · intro h
    obtain ⟨⟨ys, mid⟩, hys, hend⟩ := Except.bind_eq_ok.mp h
    obtain ⟨rest', hrest', hok⟩ := Except.bind_eq_ok.mp hend
    cases hok
    rw [readElements] at hys
    split at hys
    · cases hys
    · rename_i hmore
      cases hys
      obtain ⟨w, mid', hw, rfl, rfl⟩ := moreElements_eq_false.mp hmore
      cases hrest'
      exact ⟨w ++ [']'], .nil hw, by simp⟩
    · rename_i mid₁ hmore
      split at hys
      · cases hys
      · rename_i x mid₂ hx
        obtain ⟨w₀, t, hw₀, ht, rfl⟩ := (hread _ _ _).mp hx
        rcases moreElements_eq_true hmore with ⟨_, w, hw, rfl⟩ | ⟨hfirst, _⟩
        · have hpos := List.length_pos_iff.mpr (hP.ne_nil ht)
          obtain ⟨more, ts, w', mid', hts, hw', rfl, rfl, rfl⟩ := (readElements_eq_ok hread hP
            (by simp only [List.length_append]; omega)).mp hys
          cases hrest'
          refine ⟨(w ++ w₀) ++ (t ++ (ts ++ (w' ++ [']']))), ?_, by simp⟩
          exact .cons (hw.append hw₀) ht hts hw'
        · cases hfirst
  · intro h
    obtain ⟨t, ht, rfl⟩ := h
    cases ht with
    | @nil w hw =>
      rw [readListBody, readElements, List.append_assoc, List.singleton_append,
        moreElements_eq_false.mpr ⟨w, rest, hw, rfl, rfl⟩]
      rfl
    | @cons x xs w w' t ts hw ht hts hw' =>
      have hpos := List.length_pos_iff.mpr (hP.ne_nil ht)
      have hx : element (t ++ (ts ++ (w' ++ ']' :: rest))) = .ok (x, ts ++ (w' ++ ']' :: rest)) :=
        (hread _ _ _).mpr ⟨[], t, .nil, ht, rfl⟩
      simp only [List.append_assoc, List.singleton_append]
      rw [readListBody, readElements, moreElements_first hP hw ht]
      simp only [hx]
      rw [(readElements_eq_ok hread hP ?_).mpr ⟨xs, ts, w', rest, hts, hw', rfl, rfl, rfl⟩]
      · rfl
      · simp only [List.length_append]
        omega

theorem exact_readList (hread : Exact element P) (hP : Delimited P) :
    Exact (readList element) (ListText P) := by
  intro cs xs rest
  constructor
  · intro h
    unfold readList at h
    split at h
    · cases h
    · rename_i hskip
      obtain ⟨w, hw, rfl⟩ := skipSpace_eq_cons hskip
      obtain ⟨t, ht, rfl⟩ := (readListBody_eq_ok hread hP).mp h
      exact ⟨w, _, hw, ht, rfl⟩
    · exact absurd h (wrongType_ne_ok _ _ _)
  · intro h
    obtain ⟨w, t, hw, ht, rfl⟩ := h
    have hbracket : ∃ t', t = '[' :: t' := by
      cases ht <;> exact ⟨_, rfl⟩
    obtain ⟨t', rfl⟩ := hbracket
    rw [readList, skipSpace_blank hw, List.cons_append, skipSpace_cons (by decide)]
    exact (readListBody_eq_ok hread hP).mpr ⟨t', ht, rfl⟩

/-! ## Objects -/

theorem readColon_eq_ok {cs rest : List Char} :
    readColon cs = .ok rest ↔ ∃ w, Blank w ∧ cs = w ++ ':' :: rest := by
  constructor
  · intro h
    unfold readColon at h
    split at h
    · cases h
    · rename_i hskip
      cases h
      exact skipSpace_eq_cons hskip
    · cases h
  · intro h
    obtain ⟨w, hw, rfl⟩ := h
    rw [readColon, skipSpace_blank hw, skipSpace_cons (by decide)]
    rfl

theorem readKey?_eq_none {first : Bool} {cs rest : List Char} :
    readKey? first cs = .ok (none, rest) ↔ ∃ w, Blank w ∧ cs = w ++ '\x7d' :: rest := by
  have hkey : ∀ cs, readKey?.key cs ≠ .ok (none, rest) := by
    intro cs h
    unfold readKey?.key at h
    split at h
    · obtain ⟨_, _, hok⟩ := Except.bind_eq_ok.mp h
      cases hok
    · cases h
  constructor
  · intro h
    unfold readKey? at h
    split at h
    · cases h
    · rename_i hskip
      cases h
      exact skipSpace_eq_cons hskip
    · split at h
      · exact absurd h (hkey _)
      · obtain ⟨_, hnext⟩ := Except.ite_else_error_eq_ok.mp h
        split at hnext
        · cases hnext
        · cases hnext
        · exact absurd hnext (hkey _)
  · intro h
    obtain ⟨w, hw, rfl⟩ := h
    rw [readKey?, skipSpace_blank hw, skipSpace_cons (by decide)]
    rfl

theorem key_eq_ok {cs rest : List Char} {key : String} :
    readKey?.key cs = .ok (some key, rest) ↔ ∃ t, StringText key t ∧ cs = t ++ rest := by
  constructor
  · intro h
    unfold readKey?.key at h
    split at h
    · obtain ⟨⟨s, rest'⟩, hs, hok⟩ := Except.bind_eq_ok.mp h
      cases hok
      obtain ⟨body, hbody, rfl⟩ := readString_eq_ok.mp hs
      exact ⟨_, ⟨body, hbody, rfl⟩, by simp⟩
    · cases h
  · intro h
    obtain ⟨t, ⟨body, hbody, rfl⟩, rfl⟩ := h
    have hs : readString (body ++ '"' :: rest) = .ok (key, rest) :=
      readString_eq_ok.mpr ⟨body, hbody, rfl⟩
    rw [List.cons_append, List.append_assoc, List.singleton_append, readKey?.key, hs]
    rfl

/-- Where an object goes on, its first key follows, or a comma and its next. -/
theorem readKey?_eq_some {first : Bool} {cs rest : List Char} {key : String} :
    readKey? first cs = .ok (some key, rest) ↔
      ∃ t, StringText key t ∧
        ((first = true ∧ ∃ w, Blank w ∧ cs = w ++ (t ++ rest)) ∨
          (first = false ∧ ∃ w w', Blank w ∧ Blank w' ∧ cs = w ++ ',' :: (w' ++ (t ++ rest)))) := by
  constructor
  · intro h
    unfold readKey? at h
    split at h
    · cases h
    · cases h
    · rename_i c more hclose hskip
      obtain ⟨w, hw, rfl⟩ := skipSpace_eq_cons hskip
      split at h
      · rename_i hfirst
        obtain ⟨t, ht, hcs⟩ := key_eq_ok.mp h
        exact ⟨t, ht, .inl ⟨hfirst, w, hw, by rw [hcs]⟩⟩
      · rename_i hfirst
        obtain ⟨rfl, hnext⟩ := Except.ite_else_error_eq_ok.mp h
        obtain ⟨w', hw', hmore⟩ := eq_blank_append_skipSpace more
        split at hnext
        · cases hnext
        · cases hnext
        · obtain ⟨t, ht, hcs⟩ := key_eq_ok.mp hnext
          refine ⟨t, ht, .inr ⟨by simpa using hfirst, w, w', hw, hw', ?_⟩⟩
          rw [← hcs, ← hmore]
  · intro h
    obtain ⟨t, ht, ⟨rfl, w, hw, rfl⟩ | ⟨rfl, w, w', hw, hw', rfl⟩⟩ := h
    · obtain ⟨c, t', rfl, _, hclose, hskip⟩ := delimited_stringText.skip hw ht rest
      rw [readKey?, hskip]
      split
      · simp_all
      · simp_all
      · rename_i hcs
        rw [← hcs]
        exact key_eq_ok.mpr ⟨c :: t', ht, rfl⟩
    · obtain ⟨c, t', rfl, _, hclose, hskip⟩ := delimited_stringText.skip hw' ht rest
      rw [readKey?, skipSpace_blank hw, skipSpace_cons (by decide)]
      split
      · rename_i hnil
        cases hnil
      · rename_i hcons
        exact absurd (List.cons.inj hcons).1 (by decide)
      · rename_i hcons
        obtain ⟨rfl, rfl⟩ := List.cons.inj hcons
        rw [if_neg Bool.false_ne_true, if_pos rfl, hskip]
        split
        · simp_all
        · simp_all
        · exact key_eq_ok.mpr ⟨c :: t', ht, rfl⟩

variable {value : Reader α}

/-- Behind a key stand a colon and a value. -/
theorem member_sound (hread : ExactWithin value P) {read members : List (String × α)}
    {key : String} {cs rest : List Char}
    (h : readObject.member value read key cs = .ok (members, rest)) :
    ∃ x w w' t, Blank w ∧ Blank w' ∧ P x t ∧ members = (key, x) :: read ∧
      cs = w ++ ':' :: (w' ++ (t ++ rest)) := by
  obtain ⟨mid, hmid, hvalue⟩ := Except.bind_eq_ok.mp h
  obtain ⟨⟨x, rest'⟩, hx, hok⟩ := Except.bind_eq_ok.mp hvalue
  cases hok
  obtain ⟨w, hw, rfl⟩ := readColon_eq_ok.mp hmid
  obtain ⟨w', t, hw', ht, rfl⟩ := hread.sound hx
  exact ⟨x, w, w', t, hw, hw', ht, rfl, rfl⟩

theorem member_complete (hread : ExactWithin value P) (read : List (String × α)) (key : String)
    {x : α} {w w' t rest : List Char} (hw : Blank w) (hw' : Blank w') (ht : P x t)
    (hrest : Ends rest) :
    readObject.member value read key (w ++ ':' :: (w' ++ (t ++ rest))) =
      .ok ((key, x) :: read, rest) := by
  rw [readObject.member, readColon_eq_ok.mpr ⟨w, hw, rfl⟩, Except.ok_bind,
    hread.complete hw' ht hrest]
  rfl

/-- A value can end before the members behind it. -/
theorem ends_followers {Q : String × α → List Char → Prop} {more : List (String × α)}
    {ts w : List Char} (h : Followers Q more ts) (hw : Blank w) (rest : List Char) :
    Ends (ts ++ (w ++ '\x7d' :: rest)) := by
  cases h with
  | nil => exact ends_blank_append hw (.inr (.inr rfl)) rest
  | cons hw₀ _ _ _ =>
    rw [List.append_assoc, List.cons_append]
    exact ends_blank_append hw₀ (.inl rfl) _

/-- Behind a member, what follows is read up to the closing brace. -/
theorem readMembers_eq_ok (hread : ExactWithin value P) {fuel : Nat}
    {read members : List (String × α)} {cs rest : List Char} (hfuel : cs.length < fuel) :
    readMembers (readObject.member value) fuel false read cs = .ok (members, rest) ↔
      ∃ more ts w, Followers (MemberText P) more ts ∧ Blank w ∧ members = more.reverse ++ read ∧
        cs = ts ++ (w ++ '\x7d' :: rest) := by
  induction fuel generalizing read cs with
  | zero => exact absurd hfuel (Nat.not_lt_zero _)
  | succ fuel ih =>
    rw [readMembers]
    constructor
    · intro h
      split at h
      · cases h
      · rename_i hkey
        cases h
        obtain ⟨w, hw, rfl⟩ := readKey?_eq_none.mp hkey
        exact ⟨[], [], w, .nil, hw, rfl, rfl⟩
      · rename_i key mid hkey
        split at h
        · cases h
        · rename_i state mid' hmember
          obtain ⟨x, w₁, w₂, t, hw₁, hw₂, ht, rfl, rfl⟩ := member_sound hread hmember
          obtain ⟨name, hname, ⟨hfirst, _⟩ | ⟨_, w, w', hw, hw', rfl⟩⟩ := readKey?_eq_some.mp hkey
          · cases hfirst
          · simp only [List.length_append, List.length_cons] at hfuel
            obtain ⟨more, ts, w'', hts, hw'', rfl, rfl⟩ := (ih (by omega)).mp h
            have hmember : MemberText P (key, x) (name ++ (w₁ ++ ':' :: (w₂ ++ t))) :=
              ⟨name, w₁, w₂, t, hname, hw₁, hw₂, ht, rfl⟩
            exact ⟨(key, x) :: more, _, w'', .cons hw hw' hmember hts, hw'', by simp, by simp⟩
    · intro h
      obtain ⟨more, ts, w, hts, hw, rfl, rfl⟩ := h
      cases hts with
      | nil =>
        rw [List.nil_append, readKey?_eq_none.mpr ⟨w, hw, rfl⟩]
        simp
      | @cons m more w₀ w' t ts hw₀ hw' ht hts =>
        obtain ⟨key, x⟩ := m
        obtain ⟨name, w₁, w₂, t, hname, hw₁, hw₂, ht, rfl⟩ := ht
        simp only [List.append_assoc, List.cons_append, List.length_append, List.length_cons]
          at hfuel ⊢
        rw [readKey?_eq_some.mpr ⟨name, hname, .inr ⟨rfl, w₀, w', hw₀, hw', rfl⟩⟩]
        simp only [member_complete hread read key hw₁ hw₂ ht (ends_followers hts hw rest)]
        refine (ih ?_).mpr ⟨more, ts, w, hts, hw, by simp, rfl⟩
        simp only [List.length_append, List.length_cons]
        omega

theorem readObjectBody_eq_ok (hread : ExactWithin value P) {members : List (String × α)}
    {cs rest : List Char} :
    readObjectBody (readObject.member value) [] cs = .ok (members, rest) ↔
      ∃ t, ObjectText P members.reverse ('\x7b' :: t) ∧ cs = t ++ rest := by
  rw [readObjectBody, readMembers]
  constructor
  · intro h
    split at h
    · cases h
    · rename_i hkey
      cases h
      obtain ⟨w, hw, rfl⟩ := readKey?_eq_none.mp hkey
      exact ⟨w ++ ['\x7d'], .nil hw, by simp⟩
    · rename_i key mid hkey
      split at h
      · cases h
      · rename_i state mid' hmember
        obtain ⟨x, w₁, w₂, t, hw₁, hw₂, ht, rfl, rfl⟩ := member_sound hread hmember
        obtain ⟨name, hname, ⟨_, w, hw, rfl⟩ | ⟨hfirst, _⟩⟩ := readKey?_eq_some.mp hkey
        · obtain ⟨more, ts, w', hts, hw', rfl, rfl⟩ := (readMembers_eq_ok hread
            (by simp only [List.length_append, List.length_cons]; omega)).mp h
          have htext : ObjectText P ((key, x) :: more) ('\x7b' :: (w ++
              ((name ++ (w₁ ++ ':' :: (w₂ ++ t))) ++ (ts ++ (w' ++ ['\x7d']))))) :=
            .cons hw ⟨name, w₁, w₂, t, hname, hw₁, hw₂, ht, rfl⟩ hts hw'
          exact ⟨_, by simpa using htext, by simp⟩
        · cases hfirst
  · intro h
    obtain ⟨t, ht, rfl⟩ := h
    generalize hmembers : members.reverse = written at ht
    obtain rfl : members = written.reverse := by rw [← hmembers, List.reverse_reverse]
    cases ht with
    | @nil w hw =>
      rw [List.append_assoc, List.singleton_append, readKey?_eq_none.mpr ⟨w, hw, rfl⟩]
      rfl
    | @cons m more w w' t ts hw ht hts hw' =>
      obtain ⟨key, x⟩ := m
      obtain ⟨name, w₁, w₂, t, hname, hw₁, hw₂, ht, rfl⟩ := ht
      simp only [List.append_assoc, List.cons_append, List.nil_append]
      rw [readKey?_eq_some.mpr ⟨name, hname, .inl ⟨rfl, w, hw, rfl⟩⟩]
      simp only [member_complete hread [] key hw₁ hw₂ ht (ends_followers hts hw' rest)]
      refine (readMembers_eq_ok hread ?_).mpr ⟨more, ts, w', hts, hw', by simp, rfl⟩
      simp only [List.length_append, List.length_cons]
      omega

theorem exact_readObject (hread : ExactWithin value P) :
    Exact (readObject value) (ObjectText P) := by
  intro cs members rest
  constructor
  · intro h
    unfold readObject at h
    split at h
    · cases h
    · rename_i hskip
      obtain ⟨w, hw, rfl⟩ := skipSpace_eq_cons hskip
      obtain ⟨⟨latest, rest'⟩, hbody, hok⟩ := Except.bind_eq_ok.mp h
      cases hok
      obtain ⟨t, ht, rfl⟩ := (readObjectBody_eq_ok hread).mp hbody
      exact ⟨w, _, hw, ht, rfl⟩
    · exact absurd h (wrongType_ne_ok _ _ _)
  · intro h
    obtain ⟨w, t, hw, ht, rfl⟩ := h
    have hbrace : ∃ t', t = '\x7b' :: t' := by
      cases ht <;> exact ⟨_, rfl⟩
    obtain ⟨t', rfl⟩ := hbrace
    rw [readObject, skipSpace_blank hw, List.cons_append, skipSpace_cons (by decide)]
    have hbody : readObjectBody (readObject.member value) [] (t' ++ rest) =
        .ok (members.reverse, rest) :=
      (readObjectBody_eq_ok hread).mpr ⟨t', by rwa [List.reverse_reverse], rfl⟩
    simp only [hbody, Except.ok_bind, List.reverse_reverse]

/-! ## Values of a kind -/

/-- What holds of every value that is read holds of the values of an object. -/
theorem readMembers_forall {Q : α → Prop}
    (hvalue : ∀ {cs rest : List Char} {x : α}, value cs = .ok (x, rest) → Q x) {fuel : Nat}
    {first : Bool} {read members : List (String × α)} {cs rest : List Char}
    (hread : ∀ e ∈ read, Q e.2)
    (h : readMembers (readObject.member value) fuel first read cs = .ok (members, rest)) :
    ∀ e ∈ members, Q e.2 := by
  induction fuel generalizing first read cs with
  | zero => cases h
  | succ fuel ih =>
    rw [readMembers] at h
    split at h
    · cases h
    · cases h
      exact hread
    · rename_i key mid _
      split at h
      · cases h
      · rename_i state mid' hmember
        obtain ⟨_, _, hcolon⟩ := Except.bind_eq_ok.mp hmember
        obtain ⟨⟨x, _⟩, hx, hok⟩ := Except.bind_eq_ok.mp hcolon
        cases hok
        exact ih (List.forall_mem_cons.mpr ⟨hvalue hx, hread⟩) h

theorem readObject_forall {Q : α → Prop}
    (hvalue : ∀ {cs rest : List Char} {x : α}, value cs = .ok (x, rest) → Q x)
    {members : List (String × α)} {cs rest : List Char}
    (h : readObject value cs = .ok (members, rest)) : ∀ e ∈ members, Q e.2 := by
  unfold readObject at h
  split at h
  · cases h
  · obtain ⟨⟨latest, _⟩, hbody, hok⟩ := Except.bind_eq_ok.mp h
    cases hok
    have hlatest : ∀ e ∈ latest, Q e.2 :=
      readMembers_forall hvalue (List.forall_mem_nil _) hbody
    intro e he
    exact hlatest e (List.mem_reverse.mp he)
  · exact absurd h (wrongType_ne_ok _ _ _)

/-! ## Whole texts -/

/-- A text is read exactly if it is a text of the grammar with white space around
it. -/
theorem readText_eq_ok (hread : Exact value P) {text : String} {x : α} :
    readText value text = .ok x ↔ DocumentText P x text.toList := by
  constructor
  · intro h
    obtain ⟨⟨y, rest⟩, hy, hend⟩ := Except.bind_eq_ok.mp h
    obtain ⟨hrest, hok⟩ := Except.ite_else_error_eq_ok.mp hend
    cases hok
    obtain ⟨w, t, hw, ht, htext⟩ := (hread _ _ _).mp hy
    exact ⟨w, t, rest, hw, ht, skipSpace_eq_nil.mp (List.isEmpty_iff.mp hrest), htext⟩
  · intro h
    obtain ⟨w, t, w', hw, ht, hw', htext⟩ := h
    have hend : (skipSpace w').isEmpty = true := List.isEmpty_iff.mpr (skipSpace_eq_nil.mpr hw')
    rw [readText, (hread _ _ _).mpr ⟨w, t, hw, ht, htext⟩, Except.ok_bind]
    exact if_pos hend

/-- A text is read into something made of a value as it is read as the value. -/
theorem readText_map {β : Type} (read : Reader α) (f : α → β) (text : String) :
    readText (fun cs => (read cs).map fun (x, rest) => (f x, rest)) text =
      (readText read text).map f := by
  rw [readText, readText]
  cases read text.toList with
  | error e => rfl
  | ok r =>
    show (if (skipSpace r.2).isEmpty then Except.ok (f r.1) else _) =
      Except.map f (if (skipSpace r.2).isEmpty then .ok r.1 else _)
    split <;> rfl

end

end AccessDecision.Json
