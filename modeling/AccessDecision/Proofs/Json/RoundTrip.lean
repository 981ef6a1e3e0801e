import AccessDecision.Json.Writer
import AccessDecision.Proofs.Json.Containers
import AccessDecision.Proofs.Text.Split
import Mathlib.Algebra.Group.Int.Defs

/-
  What is written reads back

  A written value is read up to where it ends, in any layout, if what follows can
  follow a value (`Ends`): a number has no closing sign, so behind it a further
  digit would be taken too. `ReadsBack` says this of a reader and a writer. An
  object is read by a function that goes from one state to the next with each
  member, so what reads back is the whole list of members (`MembersRead`).

  What is proved:
    1. `readsBack_string`, `readsBack_list` and `readsBack_object` — strings read
       back, and so do lists of them and objects of whatever reads back.
    2. `readsBack_scalar` — so do scalars whose number, if they are one, is an
       integer in 64 bits.
    3. `readObjectBody_written` — members that a reader of members takes one after
       the other are taken by it as they are written.
-/

namespace AccessDecision.Json

/-- What is written of a value is read up to its end. -/
def ReadsBack {α : Type} (read : Reader α) (x : α) (write : Writer) : Prop :=
  ∀ layout before rest, Blank before → Ends rest →
    read (before ++ (write layout ++ rest)) = .ok (x, rest)

/-! ## White space -/

theorem blank_lineBreak (layout : Layout) : Blank layout.lineBreak := by
  cases layout with
  | compact => exact .nil
  | indented depth =>
    intro c hc
    rcases List.mem_cons.mp hc with rfl | hc
    · decide
    · rw [List.eq_of_mem_replicate hc]
      decide

theorem blank_gap (layout : Layout) : Blank layout.gap := by
  cases layout with
  | compact => exact .nil
  | indented depth =>
    intro c hc
    rw [List.mem_singleton.mp hc]
    decide

/-- White space in front of a value is passed over, up to the sign it starts with. -/
theorem skipSpace_blank_cons {before : List Char} (hbefore : Blank before) {c : Char}
    (hc : isSpace c = false) (text rest : List Char) :
    skipSpace (before ++ (c :: text ++ rest)) = c :: (text ++ rest) := by
  rw [skipSpace_blank hbefore, List.cons_append, skipSpace_cons hc]

section
variable {α : Type} {P : α → List Char → Prop}

theorem readsBack_of_exact {read : Reader α} (hread : Exact read P) {x : α} {write : Writer}
    (hwrite : ∀ layout, P x (write layout)) : ReadsBack read x write :=
  fun layout before _ hbefore _ =>
    (hread _ _ _).mpr ⟨before, write layout, hbefore, hwrite layout, rfl⟩

/-- What is made of a value reads back as what is made of it. -/
theorem ReadsBack.map {β : Type} {read : Reader α} {x : α} {write : Writer}
    (h : ReadsBack read x write) (f : α → β) :
    ReadsBack (fun cs => (read cs).map fun (x, rest) => (f x, rest)) (f x) write := by
  intro layout before rest hbefore hrest
  simp only [h layout before rest hbefore hrest, Except.map]

/-- A text that holds a written value holds it. -/
theorem readText_of_readsBack {read : Reader α} {x : α} {write : Writer}
    (h : ReadsBack read x write) (layout : Layout) :
    readText read (String.ofList (write layout)) = .ok x := by
  have hread : read (write layout) = .ok (x, []) := by
    simpa using h layout [] [] .nil ends_nil
  rw [readText, String.toList_ofList, hread]
  rfl

/-! ## Strings and lists -/

theorem hexDigit?_hexDigit : ∀ n < 16, hexDigit? (hexDigit n) = some n := by decide

theorem charText_escapeChar (c : Char) : CharText c (escapeChar c) := by
  unfold escapeChar
  split
  · exact .short rfl
  · exact .short rfl
  · exact .short rfl
  · exact .short rfl
  · exact .short rfl
  · exact .short rfl
  · exact .short rfl
  · rename_i hquote hbackslash _ _ _ _ _
    split
    · rename_i hcontrol
      have hdigits : Hex4 ['0', '0', hexDigit (c.toNat / 16), hexDigit (c.toNat % 16)] c.toNat := by
        have hcode := Hex4.digits (hexDigit?_hexDigit 0 (by decide))
          (hexDigit?_hexDigit 0 (by decide)) (hexDigit?_hexDigit (c.toNat / 16) (by omega))
          (hexDigit?_hexDigit (c.toNat % 16) (by omega))
        have hvalue : ((0 * 16 + 0) * 16 + c.toNat / 16) * 16 + c.toNat % 16 = c.toNat := by omega
        rwa [hvalue] at hcode
      have htext := CharText.code hdigits (by omega)
      rwa [charOf, Char.ofNat_toNat] at htext
    · exact .plain hquote hbackslash (by omega)

theorem charsText_written (cs : List Char) : CharsText cs (cs.flatMap escapeChar) := by
  induction cs with
  | nil => exact .nil
  | cons c cs ih => exact .cons (charText_escapeChar c) ih

theorem stringText_written (s : String) : StringText s (stringText s) :=
  ⟨s.toList.flatMap escapeChar, charsText_written s.toList, rfl⟩

theorem readString_written (s : String) (rest : List Char) :
    readString (s.toList.flatMap escapeChar ++ ['"'] ++ rest) = .ok (s, rest) :=
  readString_eq_ok.mpr ⟨_, charsText_written s.toList, by simp⟩

theorem readsBack_string (s : String) : ReadsBack readStringValue s (writeString s) :=
  readsBack_of_exact exact_readStringValue fun _ => stringText_written s

/-- The members behind the first one, each with its comma. -/
def laterMembers (inside : Layout) (members : List (List Char)) : List Char :=
  members.flatMap fun member => ',' :: (inside.lineBreak ++ member)

theorem joinMembers_cons (inside : Layout) (member : List Char) (rest : List (List Char)) :
    joinMembers inside (member :: rest) =
      inside.lineBreak ++ (member ++ laterMembers inside rest) := by
  induction rest generalizing member with
  | nil => simp [joinMembers, laterMembers]
  | cons next rest ih => simp [joinMembers, ih next, laterMembers]

theorem followers_written (inside : Layout) {text : α → List Char} {xs : List α}
    (h : ∀ x ∈ xs, P x (text x)) : Followers P xs (laterMembers inside (xs.map text)) := by
  induction xs with
  | nil => exact .nil
  | cons x xs ih =>
    rw [List.forall_mem_cons] at h
    have hmore := Followers.cons .nil (blank_lineBreak inside) h.1 (ih h.2)
    simpa [laterMembers] using hmore

theorem listText_written {layout : Layout} {write : α → Writer} {xs : List α}
    (h : ∀ x ∈ xs, P x (write x layout.deeper)) :
    ListText P xs (writeList (xs.map write) layout) := by
  cases xs with
  | nil => exact .nil .nil
  | cons x xs =>
    rw [List.forall_mem_cons] at h
    have hfollowers := followers_written layout.deeper h.2
    have htext : ListText P (x :: xs) _ :=
      .cons (blank_lineBreak layout.deeper) h.1 hfollowers (blank_lineBreak layout)
    simpa [writeList, joinMembers_cons, Function.comp_def] using htext

theorem readsBack_list {read : Reader α} (hread : Exact read P) (hP : Delimited P)
    {write : α → Writer} {xs : List α} (h : ∀ x ∈ xs, ∀ layout, P x (write x layout)) :
    ReadsBack (readList read) xs (writeList (xs.map write)) :=
  readsBack_of_exact (exact_readList hread hP) fun layout =>
    listText_written fun x hx => h x hx layout.deeper

theorem readsBack_strings (ss : List String) :
    ReadsBack (readList readStringValue) ss (writeList (ss.map writeString)) :=
  readsBack_list exact_readStringValue delimited_stringText fun s _ _ => stringText_written s

end

/-! ## Objects -/

section
variable {σ : Type} {member : σ → String → Reader σ}

/-- Members that are taken as they are written, each from the state that those before
it came to. -/
inductive MembersRead (member : σ → String → Reader σ) :
    σ → List (String × Writer) → σ → Prop where
  | nil {s : σ} : MembersRead member s [] s
  | cons {s s' s'' : σ} {name : String} {value : Writer} {members : List (String × Writer)} :
      (∀ layout rest, Ends rest →
        member s name (':' :: (layout.gap ++ (value layout ++ rest))) = .ok (s', rest)) →
      MembersRead member s' members s'' → MembersRead member s ((name, value) :: members) s''

theorem MembersRead.append {s s' s'' : σ} {members members' : List (String × Writer)}
    (h : MembersRead member s members s') (h' : MembersRead member s' members' s'') :
    MembersRead member s (members ++ members') s'' := by
  induction h with
  | nil => exact h'
  | cons hread _ ih => exact .cons hread (ih h')

/-- The texts of members. -/
def memberTexts (members : List (String × Writer)) (layout : Layout) : List (List Char) :=
  members.map fun m => writeMember m.1 m.2 layout

theorem length_le_laterMembers (inside : Layout) (members : List (List Char)) :
    members.length ≤ (laterMembers inside members).length := by
  induction members with
  | nil => exact Nat.le_refl 0
  | cons member members ih =>
    simp only [laterMembers, List.flatMap_cons, List.length_append, List.length_cons] at ih ⊢
    omega

theorem ends_laterMembers (inside : Layout) (members : List (List Char)) {w : List Char}
    (hw : Blank w) (rest : List Char) :
    Ends (laterMembers inside members ++ (w ++ '\x7d' :: rest)) := by
  cases members with
  | nil => exact ends_blank_append hw (.inr (.inr rfl)) rest
  | cons member members => exact fun c hc => .inr (.inl (Option.some.inj hc).symm)

theorem readColon_colon (rest : List Char) : readColon (':' :: rest) = .ok rest := rfl

/-- The key of a written member is read, up to its colon. -/
theorem readKey?_written (first : Bool) (inside : Layout) (name : String) (value : Writer)
    (rest : List Char) :
    readKey? first ((if first then [] else [',']) ++
        (inside.lineBreak ++ (writeMember name value inside ++ rest))) =
      .ok (some name, ':' :: (inside.gap ++ (value inside ++ rest))) := by
  refine readKey?_eq_some.mpr ⟨stringText name, stringText_written name, ?_⟩
  have hblank := blank_lineBreak inside
  cases first with
  | true => exact .inl ⟨rfl, inside.lineBreak, hblank, by simp [writeMember]⟩
  | false => exact .inr ⟨rfl, [], inside.lineBreak, .nil, hblank, by simp [writeMember]⟩

/-- Behind a member the others are taken one after the other. -/
theorem readMembers_written {s s' : σ} {members : List (String × Writer)}
    (h : MembersRead member s members s') {inside : Layout} {w rest : List Char} (hw : Blank w)
    {fuel : Nat} (hfuel : members.length < fuel) :
    readMembers member fuel false s
      (laterMembers inside (memberTexts members inside) ++ (w ++ '\x7d' :: rest)) =
      .ok (s', rest) := by
  induction h generalizing fuel with
  | nil =>
    obtain ⟨fuel, rfl⟩ : ∃ n, fuel = n + 1 := ⟨fuel - 1, by omega⟩
    have hclose : readKey? false (w ++ '\x7d' :: rest) = .ok (none, rest) :=
      readKey?_eq_none.mpr ⟨w, hw, rfl⟩
    simp only [memberTexts, List.map_nil, laterMembers, List.flatMap_nil, List.nil_append,
      readMembers, hclose]
  | @cons s s₁ s' name value members hread _ ih =>
    obtain ⟨fuel, rfl⟩ : ∃ n, fuel = n + 1 := ⟨fuel - 1, by omega⟩
    rw [List.length_cons] at hfuel
    have hmore := ends_laterMembers inside (memberTexts members inside) hw rest
    have hkey := readKey?_written false inside name value
      (laterMembers inside (memberTexts members inside) ++ (w ++ '\x7d' :: rest))
    have htext : laterMembers inside (memberTexts ((name, value) :: members) inside) =
        [','] ++ (inside.lineBreak ++ (writeMember name value inside ++
          laterMembers inside (memberTexts members inside))) := by
      simp [laterMembers, memberTexts]
    rw [if_neg Bool.false_ne_true] at hkey
    rw [htext, List.append_assoc, List.append_assoc, List.append_assoc, readMembers, hkey]
    simp only [hread inside _ hmore]
    exact ih (by omega)

/-- The members of an object are taken one after the other, whatever stands behind the
object. -/
theorem readObjectBody_written {s s' : σ} {members : List (String × Writer)}
    (h : MembersRead member s members s') (layout : Layout) :
    ∃ text, writeObject members layout = '\x7b' :: text ∧
      ∀ rest, readObjectBody member s (text ++ rest) = .ok (s', rest) := by
  cases h with
  | nil => exact ⟨['\x7d'], rfl, fun rest => rfl⟩
  | @cons _ s₁ _ name value members hread hmembers =>
    have htext : writeObject ((name, value) :: members) layout = '\x7b' ::
        (layout.deeper.lineBreak ++ (writeMember name value layout.deeper ++
          (laterMembers layout.deeper (memberTexts members layout.deeper) ++
            (layout.lineBreak ++ ['\x7d'])))) := by
      simp [writeObject, joinMembers_cons, memberTexts]
    refine ⟨_, htext, fun rest => ?_⟩
    have hmore := ends_laterMembers layout.deeper (memberTexts members layout.deeper)
      (blank_lineBreak layout) rest
    have hkey := readKey?_written true layout.deeper name value
      (laterMembers layout.deeper (memberTexts members layout.deeper) ++
        (layout.lineBreak ++ '\x7d' :: rest))
    have hlength := length_le_laterMembers layout.deeper (memberTexts members layout.deeper)
    rw [if_pos rfl, List.nil_append] at hkey
    simp only [List.append_assoc, List.singleton_append]
    rw [readObjectBody, readMembers, hkey]
    simp only [hread layout.deeper _ hmore]
    refine readMembers_written hmembers (blank_lineBreak layout) ?_
    simp only [memberTexts, List.length_map, List.length_append, List.length_cons] at hlength ⊢
    omega

/-- A reader of objects takes as its members whatever its reader of values reads
back. -/
theorem readsBack_object {α : Type} {read : Reader α} (write : α → Writer)
    {members : List (String × α)} (h : ∀ m ∈ members, ReadsBack read m.2 (write m.2)) :
    ReadsBack (readObject read) members
      (writeObject (members.map fun m => (m.1, write m.2))) := by
  have htaken : ∀ taken, MembersRead (readObject.member read) taken
      (members.map fun m => (m.1, write m.2)) (members.reverse ++ taken) := by
    induction members with
    | nil => exact fun _ => .nil
    | cons m members ih =>
      rw [List.forall_mem_cons] at h
      intro taken
      have hrest := ih h.2 ((m.1, m.2) :: taken)
      rw [List.reverse_cons, List.append_assoc]
      refine .cons (fun layout rest hends => ?_) hrest
      rw [readObject.member, readColon_colon, Except.ok_bind,
        h.1 layout _ _ (blank_gap layout) hends]
      rfl
  intro layout before rest hbefore _
  obtain ⟨text, htext, hread⟩ := readObjectBody_written (htaken []) layout
  rw [htext, readObject, skipSpace_blank_cons hbefore (by decide)]
  simp only [hread, Except.ok_bind, List.append_nil, List.reverse_reverse]

end

/-! ## Numbers -/

/-- No digit, point or exponent can follow. -/
theorem Ends.not_number {c : Char} {rest : List Char} (h : Ends (c :: rest)) :
    c.isDigit = false ∧ c ≠ '.' ∧ c ≠ 'e' ∧ c ≠ 'E' := by
  have hspace : isSpace c = true → c = ' ' ∨ c = '\n' ∨ c = '\t' ∨ c = '\r' := by
    simp [isSpace, or_assoc]
  rcases h c rfl with hc | rfl | rfl | rfl
  · rcases hspace hc with rfl | rfl | rfl | rfl <;> decide
  · decide
  · decide
  · decide

theorem Ends.head?_not_digit {rest : List Char} (h : Ends rest) :
    rest.head?.any Char.isDigit = false := by
  cases rest with
  | nil => rfl
  | cons c rest => exact h.not_number.1

theorem le_foldl_digits (significand : Nat) (digits : List Char) :
    significand ≤ digits.foldl (fun n c => n * 10 + digitValue c) significand := by
  induction digits generalizing significand with
  | nil => exact Nat.le_refl _
  | cons c digits ih => exact Nat.le_trans (by omega) (ih (significand * 10 + digitValue c))

/-- Digits whose number fits 64 bits are all added. -/
theorem addDigits_append {digits rest : List Char} (hdigits : ∀ c ∈ digits, c.isDigit = true)
    (hrest : rest.head?.any Char.isDigit = false) {significand : Nat} (count : Nat)
    (hfits : digits.foldl (fun n c => n * 10 + digitValue c) significand ≤ Number.maxUnsigned) :
    addDigits significand count (digits ++ rest) =
      (digits.foldl (fun n c => n * 10 + digitValue c) significand, count + digits.length,
        rest) := by
  induction digits generalizing significand count with
  | nil =>
    cases rest with
    | nil => rfl
    | cons c rest =>
      have hc : c.isDigit = false := hrest
      simp [addDigits, hc]
  | cons c digits ih =>
    rw [List.forall_mem_cons] at hdigits
    have hfirst := Nat.le_trans (le_foldl_digits (significand * 10 + digitValue c) digits) hfits
    rw [List.cons_append, addDigits, if_pos (by simp [hdigits.1, hfirst]), ih hdigits.2 _ hfits,
      List.length_cons, List.foldl_cons, Nat.add_right_comm, Nat.add_assoc]

/-- Behind the digits of an integer there is no fraction and no exponent. -/
theorem readAfterDigits_ends (negative : Bool) (significand : Nat) {rest : List Char}
    (hrest : Ends rest) :
    readAfterDigits negative significand rest =
      (wholeNumber negative significand).map fun n => (n, rest) := by
  cases rest with
  | nil =>
    rw [readAfterDigits]
    · cases wholeNumber negative significand <;> rfl
    all_goals exact nofun
  | cons c rest =>
    obtain ⟨_, hpoint, he, hE⟩ := hrest.not_number
    rw [readAfterDigits]
    · cases wholeNumber negative significand <;> rfl
    all_goals simp_all

/-- The digits of a number of 64 bits are read up to its end. -/
theorem readNumber_toDigits (negative : Bool) {n : Nat} (hn : n ≤ Number.maxUnsigned)
    {rest : List Char} (hrest : Ends rest) :
    readNumber negative (Nat.toDigits 10 n ++ rest) =
      (wholeNumber negative n).map fun x => (x, rest) := by
  have hwrites := Text.writesNat_toDigits n
  have hdigits := hwrites.isDigit.2
  have hfold : (Nat.toDigits 10 n).foldl (fun n c => n * 10 + digitValue c) 0 = n :=
    hwrites.foldl_eq
  have hend := hrest.head?_not_digit
  rcases Nat.eq_zero_or_pos n with rfl | hpos
  · rw [Nat.toDigits_zero, List.singleton_append, readNumber, hend, if_neg Bool.false_ne_true,
      readAfterDigits_ends negative 0 hrest]
  · have hadd := addDigits_append hdigits hend 0 (hfold.symm ▸ hn)
    have hzero := Text.head?_toDigits_ne_zero hpos
    rw [hfold] at hadd
    cases htext : Nat.toDigits 10 n with
    | nil => exact absurd htext Nat.toDigits_ne_nil
    | cons c digits =>
      rw [htext] at hadd hdigits hzero
      have hc : c.isDigit = true := hdigits c List.mem_cons_self
      rw [List.cons_append] at hadd ⊢
      rw [readNumber]
      · rw [if_pos hc, hadd]
        simp only [hend, Bool.false_eq_true, if_false, readAfterDigits_ends negative n hrest]
      · rintro rfl
        exact hzero rfl

/-! ## Scalars -/

/-- An integer in 64 bits, with a sign or without. -/
def Number.Integral : Number → Prop
  | .integer n => -2 ^ 63 ≤ n ∧ n < 2 ^ 64
  | .double _ _ => False

/-- A scalar whose number, if it is one, is an integer in 64 bits. -/
def Scalar.Integral : Scalar → Prop
  | .number n => n.Integral
  | .boolean _ | .string _ => True

/-- The text of an integer is a sign or none and digits, which read back as it. -/
theorem readNumber_text {n : Number} (hn : n.Integral) {rest : List Char} (hrest : Ends rest) :
    (∃ c digits, n.text ++ rest = c :: digits ∧ c.isDigit = true ∧
      readNumber false (c :: digits) = .ok (n, rest)) ∨
    (∃ digits, n.text ++ rest = '-' :: digits ∧ readNumber true digits = .ok (n, rest)) := by
  have hunsigned : Number.maxUnsigned = 2 ^ 64 - 1 := rfl
  have hsigned : Number.maxSigned = 2 ^ 63 - 1 := rfl
  cases n with
  | double negative size => exact hn.elim
  | integer n =>
    obtain ⟨hlow, hhigh⟩ := hn
    cases n with
    | ofNat n =>
      rw [Int.ofNat_eq_natCast] at hhigh
      have hread := readNumber_toDigits false (n := n) (by omega) hrest
      cases htext : Nat.toDigits 10 n with
      | nil => exact absurd htext Nat.toDigits_ne_nil
      | cons c digits =>
        rw [htext] at hread
        refine .inl ⟨c, digits ++ rest, ?_, ?_, hread⟩
        · simp [Number.text, Number.integerText, htext]
        · exact (Text.writesNat_toDigits n).isDigit.2 c (htext ▸ List.mem_cons_self)
    | negSucc n =>
      have hread := readNumber_toDigits true (n := n + 1) (by omega) hrest
      rw [wholeNumber, if_pos rfl, if_neg (by omega)] at hread
      exact .inr ⟨Nat.toDigits 10 (n + 1) ++ rest, rfl, hread⟩

/-- A digit is no sign by which another kind of value is recognised. -/
theorem readAnyWith_digit {inner : Option (Reader (Option Scalar))} {c : Char} {rest : List Char}
    (hc : c.isDigit = true) :
    readAnyWith inner (c :: rest) =
      (readNumber false (c :: rest)).map fun (n, rest) => (some (.number n), rest) := by
  have hspace : isSpace c = false := by
    by_contra h
    simp only [isSpace, Bool.not_eq_false, Bool.or_eq_true, beq_iff_eq, or_assoc] at h
    rcases h with rfl | rfl | rfl | rfl <;> exact absurd hc (by decide)
  rw [readAnyWith, skipSpace_cons hspace]
  split
  case h_9 heq =>
    obtain ⟨rfl, rfl⟩ := List.cons.inj heq
    rw [if_pos hc]
  case h_1 heq => cases heq
  all_goals
    rename_i heq
    obtain ⟨rfl, _⟩ := List.cons.inj heq
    exact absurd hc (by decide)

theorem readAnyWith_blank {inner : Option (Reader (Option Scalar))} {w : List Char}
    (hw : Blank w) (cs : List Char) : readAnyWith inner (w ++ cs) = readAnyWith inner cs := by
  rw [readAnyWith, readAnyWith, skipSpace_blank hw]

theorem readsBack_scalar {x : Scalar} (hx : x.Integral) (levels : Nat) :
    ReadsBack (readScalar levels) x (writeScalar x) := by
  intro layout before rest hbefore hrest
  -- How deeply values may nest makes no difference to one that is a scalar.
  obtain ⟨inner, hinner⟩ : ∃ inner, readAny levels = readAnyWith inner := by
    cases levels with
    | zero => exact ⟨none, rfl⟩
    | succ levels => exact ⟨some (readAny levels), rfl⟩
  have hany : readAnyWith inner (writeScalar x layout ++ rest) = .ok (some x, rest) := by
    cases x with
    | boolean b => cases b <;> rfl
    | string s =>
      show (readString (s.toList.flatMap escapeChar ++ ['"'] ++ rest)).map _ = _
      rw [readString_written]
      rfl
    | number n =>
      rcases readNumber_text hx hrest with ⟨c, digits, htext, hc, hread⟩ | ⟨digits, htext, hread⟩
      · rw [writeScalar, htext, readAnyWith_digit hc, hread]
        rfl
      · rw [writeScalar, htext]
        show (readNumber true digits).map _ = _
        rw [hread]
        rfl
  rw [readScalar, hinner, readAnyWith_blank hbefore, hany]

end AccessDecision.Json
