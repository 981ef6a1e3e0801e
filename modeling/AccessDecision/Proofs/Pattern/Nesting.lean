import AccessDecision.Proofs.Pattern.TemplateMatch
import AccessDecision.Proofs.Text.Bytes

/-
  Delimiters as bytes

  The delimiters of a template are given as bytes. Whether they balance is a matter of
  counting over the bytes of the template (`nesting`): an opening delimiter adds one, a
  closing one takes one away. The reader of templates goes over characters instead. A
  delimiter is a byte by itself, so both count alike.

  What is proved:
    1. `nesting_same` — with one byte for both delimiters the bytes nest only if it
       does not occur.
    2. `level_foldlM_progress` — the reader has as many delimiters open as the count
       over the bytes says, so it finds a template exactly if the bytes nest
       (`ofText?_isSome_iff`).
    3. `nests_of_balanced` — balanced text takes the count back to where it was.
-/

namespace AccessDecision.Template

open Text

/-- How many delimiters are open behind a byte; absent if it closes what was not
opened. -/
def nest (opening closing : UInt8) (level : Nat) (byte : UInt8) : Option Nat :=
  if byte = opening then some (level + 1)
  else if byte = closing then
    match level with
    | 0 => none
    | level + 1 => some level
  else some level

/-- How many delimiters are open behind some bytes; absent if one of them closes what
was not opened. -/
def nesting (opening closing : UInt8) (bytes : List UInt8) : Option Nat :=
  bytes.foldlM (nest opening closing) 0

/-- Behind the bytes as many delimiters are open as in front of them, and none of those
was closed in between. -/
def Nests (opening closing : UInt8) (bytes : List UInt8) : Prop :=
  ∀ level, bytes.foldlM (nest opening closing) level = some level

/-- No delimiter is among the bytes. -/
def Free (opening closing : UInt8) (bytes : List UInt8) : Prop :=
  opening ∉ bytes ∧ closing ∉ bytes

section
variable {opening closing : UInt8} {bytes : List UInt8}

theorem nest_opening (level : Nat) : nest opening closing level opening = some (level + 1) :=
  if_pos rfl

theorem nest_closing (hne : opening ≠ closing) (level : Nat) :
    nest opening closing (level + 1) closing = some level := by
  unfold nest
  rw [if_neg (Ne.symm hne), if_pos rfl]

theorem nest_other {byte : UInt8} (hopening : byte ≠ opening) (hclosing : byte ≠ closing)
    (level : Nat) : nest opening closing level byte = some level := by
  unfold nest
  rw [if_neg hopening, if_neg hclosing]

theorem Free.of_cons {byte : UInt8} (h : Free opening closing (byte :: bytes)) :
    (byte ≠ opening ∧ byte ≠ closing) ∧ Free opening closing bytes := by
  obtain ⟨hopening, hclosing⟩ := h
  rw [List.mem_cons, not_or] at hopening hclosing
  exact ⟨⟨Ne.symm hopening.1, Ne.symm hclosing.1⟩, hopening.2, hclosing.2⟩

theorem nests_of_free (h : Free opening closing bytes) : Nests opening closing bytes := by
  intro level
  induction bytes with
  | nil => rfl
  | cons byte bytes ih =>
    obtain ⟨⟨hopening, hclosing⟩, hfree⟩ := h.of_cons
    rw [List.foldlM_cons, nest_other hopening hclosing]
    exact ih hfree

/-- With one byte for both delimiters nothing is ever closed. -/
theorem foldlM_nest_same (level : Nat) :
    bytes.foldlM (nest opening opening) level = some (level + bytes.count opening) := by
  induction bytes generalizing level with
  | nil => rfl
  | cons byte bytes ih =>
    rw [List.foldlM_cons]
    by_cases hbyte : byte = opening
    · rw [hbyte, nest_opening, List.count_cons_self, ← Nat.add_assoc, Nat.add_right_comm]
      exact ih (level + 1)
    · rw [nest_other hbyte hbyte, List.count_cons_of_ne hbyte]
      exact ih level

theorem nesting_same : nesting opening opening bytes = some 0 ↔ opening ∉ bytes := by
  rw [nesting, foldlM_nest_same, Nat.zero_add, Option.some.injEq, List.count_eq_zero]

end

/-! ## From bytes to characters -/

section
variable {opening closing : UInt8} {cs : List Char}

theorem utf8EncodeChar_delimiter {byte : UInt8} (hbyte : byte < 128) :
    String.utf8EncodeChar (delimiter byte) = [byte] := utf8EncodeChar_ascii hbyte

variable (hopening : opening < 128) (hclosing : closing < 128)
include hopening hclosing

theorem free_utf8EncodeChar {c : Char} (ho : c ≠ delimiter opening) (hc : c ≠ delimiter closing) :
    Free opening closing (String.utf8EncodeChar c) :=
  ⟨not_mem_utf8EncodeChar hopening ho, not_mem_utf8EncodeChar hclosing hc⟩

theorem free_utf8 (h : Undelimited (delimiter opening) (delimiter closing) cs) :
    Free opening closing (utf8 cs) :=
  ⟨not_mem_utf8 hopening h.1, not_mem_utf8 hclosing h.2⟩

/-- The bytes of a fragment between its delimiters. -/
theorem utf8_fragment (fragment after : List Char) :
    utf8 (delimiter opening :: (fragment ++ delimiter closing :: after)) =
      opening :: (utf8 fragment ++ closing :: utf8 after) := by
  simp [utf8EncodeChar_delimiter hopening, utf8EncodeChar_delimiter hclosing]

/-- A character takes the reader to the level to which its bytes take the count. -/
theorem level_step (p : Progress) (d : Char) :
    (p.step (delimiter opening) (delimiter closing) d).map (·.level) =
      (String.utf8EncodeChar d).foldlM (nest opening closing) p.level := by
  obtain ⟨done, literal, current, level⟩ := p
  unfold Progress.step
  by_cases ho : d = delimiter opening
  · rw [if_pos ho, ho, utf8EncodeChar_delimiter hopening, List.foldlM_cons, nest_opening]
    cases level <;> rfl
  · rw [if_neg ho]
    by_cases hc : d = delimiter closing
    · -- The count asks for the opening delimiter first, so the two must differ.
      have hne : closing ≠ opening := fun heq => ho (heq ▸ hc)
      rw [if_pos hc, hc, utf8EncodeChar_delimiter hclosing, List.foldlM_cons, nest.eq_def,
        if_neg hne, if_pos rfl]
      rcases level with _ | _ | level <;> rfl
    · rw [if_neg hc, nests_of_free (free_utf8EncodeChar hopening hclosing ho hc)]
      rfl

/-- The reader of templates counts as `nest` does over the bytes. -/
theorem level_foldlM_progress (p : Progress) :
    (cs.foldlM (Progress.step (delimiter opening) (delimiter closing)) p).map (·.level) =
      (utf8 cs).foldlM (nest opening closing) p.level := by
  induction cs generalizing p with
  | nil => rfl
  | cons d cs ih =>
    -- One character is one step of the reader and up to four of the count.
    rw [utf8_cons, List.foldlM_cons, List.foldlM_append, ← level_step hopening hclosing]
    cases p.step (delimiter opening) (delimiter closing) d with
    | none => rfl
    | some p' => exact ih p'

/-- A text is a template exactly if its bytes nest. -/
theorem ofText?_isSome_iff :
    (ofText? (delimiter opening) (delimiter closing) cs).isSome = true ↔
      nesting opening closing (utf8 cs) = some 0 := by
  have hlevel : (cs.foldlM (Progress.step (delimiter opening) (delimiter closing))
      Progress.start).map (·.level) = (utf8 cs).foldlM (nest opening closing) 0 :=
    level_foldlM_progress hopening hclosing Progress.start
  rw [ofText?, nesting, ← hlevel]
  cases cs.foldlM (Progress.step (delimiter opening) (delimiter closing)) Progress.start with
  | none => simp
  | some p => simp [Progress.finish]

theorem nests_of_balanced (hne : opening ≠ closing)
    (h : Balanced (delimiter opening) (delimiter closing) cs) :
    Nests opening closing (utf8 cs) := by
  intro level
  induction h generalizing level with
  | nil => rfl
  | char ho hc _ ih =>
    rw [utf8_cons, List.foldlM_append,
      nests_of_free (free_utf8EncodeChar hopening hclosing ho hc)]
    exact ih level
  | nest _ _ ihinner ih =>
    rw [utf8_fragment hopening hclosing, List.foldlM_cons, nest_opening, Option.bind_eq_bind,
      Option.bind_some, List.foldlM_append, ihinner, Option.bind_eq_bind, Option.bind_some,
      List.foldlM_cons, nest_closing hne]
    exact ih level

end

end AccessDecision.Template
