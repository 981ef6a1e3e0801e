import AccessDecision.Text.Split
import Mathlib.Data.List.Induction

/-
  Fields, cuts and decimal numbers

  What is proved:
    1. `mem_fields` — every character of a text is the separator or lies in one of
       the fields.
    2. `not_mem_of_mem_fields` — no field holds the separator, and a text without
       it is its only field (`fields_of_not_mem`). A separator parts the fields
       before it from those behind it (`fields_append_sep`). Splitting undoes
       joining and joining undoes splitting (`fields_joinFields`,
       `joinFields_fields`).
    3. `cutAt_eq_some` and `cutAt_eq_none` — a text that holds a separator is cut at the
       first one, or at the last one (`cutAtLast_eq_some`).
    4. `decimal?_eq_some` — a text has a decimal value exactly if it writes one
       digit by digit (`WritesNat`), as the digits of a number do
       (`writesNat_toDigits`).
-/

namespace AccessDecision.Text

theorem consField_ne_nil (sep c : Char) (fs : List (List Char)) : consField sep c fs ≠ [] := by
  cases fs with
  | nil => simp [consField]
  | cons f fs =>
    simp only [consField]
    split <;> simp

/-- There is at least one field. -/
theorem fields_ne_nil (sep : Char) (cs : List Char) : fields sep cs ≠ [] := by
  cases cs with
  | nil => simp [fields]
  | cons c cs => exact consField_ne_nil sep c (cs.foldr (consField sep) [[]])

theorem fields_cons (sep c : Char) (cs : List Char) :
    fields sep (c :: cs) = consField sep c (fields sep cs) := rfl

theorem mem_consField {sep c x : Char} {fs : List (List Char)} :
    (x = c ∨ ∃ f ∈ fs, x ∈ f) → x = sep ∨ ∃ f ∈ consField sep c fs, x ∈ f := by
  intro h
  cases fs with
  | nil =>
    rcases h with rfl | ⟨f, hf, _⟩
    · exact .inr ⟨[x], List.mem_singleton_self _, List.mem_singleton_self _⟩
    · cases hf
  | cons f fs =>
    simp only [consField]
    split
    · rename_i hc
      rcases h with rfl | ⟨g, hg, hx⟩
      · exact .inl hc
      · exact .inr ⟨g, List.mem_cons_of_mem _ hg, hx⟩
    · rcases h with rfl | ⟨g, hg, hx⟩
      · exact .inr ⟨x :: f, List.mem_cons_self, List.mem_cons_self⟩
      · rcases List.mem_cons.mp hg with rfl | hg
        · exact .inr ⟨c :: g, List.mem_cons_self, List.mem_cons_of_mem c hx⟩
        · exact .inr ⟨g, List.mem_cons_of_mem _ hg, hx⟩

/-- Every character is the separator or lies in a field. -/
theorem mem_fields (sep : Char) {x : Char} {cs : List Char} (h : x ∈ cs) :
    x = sep ∨ ∃ f ∈ fields sep cs, x ∈ f := by
  induction cs with
  | nil => cases h
  | cons c cs ih =>
    rw [fields_cons]
    rcases List.mem_cons.mp h with rfl | h
    · exact mem_consField (.inl rfl)
    · rcases ih h with rfl | hf
      · exact .inl rfl
      · exact mem_consField (.inr hf)

theorem not_mem_of_mem_consField {sep c : Char} {fs : List (List Char)}
    (h : ∀ f ∈ fs, sep ∉ f) (hne : fs ≠ []) : ∀ f ∈ consField sep c fs, sep ∉ f := by
  cases fs with
  | nil => exact absurd rfl hne
  | cons g fs =>
    intro f hf
    simp only [consField] at hf
    split at hf
    · rcases List.mem_cons.mp hf with rfl | hf
      · exact List.not_mem_nil
      · exact h f hf
    · rename_i hc
      rcases List.mem_cons.mp hf with rfl | hf
      · rw [List.mem_cons]
        intro h
        rcases h with rfl | hg
        · exact hc rfl
        · exact h g List.mem_cons_self hg
      · exact h f (List.mem_cons_of_mem g hf)

/-- No field holds the separator. -/
theorem not_mem_of_mem_fields {sep : Char} {cs f : List Char} (h : f ∈ fields sep cs) :
    sep ∉ f := by
  induction cs generalizing f with
  | nil =>
    rw [List.mem_singleton.mp h]
    exact List.not_mem_nil
  | cons c cs ih =>
    rw [fields_cons] at h
    exact not_mem_of_mem_consField (fun _ => ih) (fields_ne_nil sep cs) f h

/-- A text without the separator is its only field. -/
theorem fields_of_not_mem {sep : Char} {cs : List Char} (h : sep ∉ cs) :
    fields sep cs = [cs] := by
  induction cs with
  | nil => rfl
  | cons c cs ih =>
    rw [List.mem_cons, not_or] at h
    rw [fields_cons, ih h.2, consField, if_neg (Ne.symm h.1)]

/-- The fields of two texts with the separator between them are those of the one and
those of the other. -/
theorem fields_append_sep (sep : Char) (front back : List Char) :
    fields sep (front ++ sep :: back) = fields sep front ++ fields sep back := by
  induction front with
  | nil =>
    rw [List.nil_append, fields_cons]
    cases h : fields sep back with
    | nil => exact absurd h (fields_ne_nil sep back)
    | cons field rest =>
      rw [consField, if_pos rfl]
      rfl
  | cons c front ih =>
    rw [List.cons_append, fields_cons, fields_cons, ih]
    cases h : fields sep front with
    | nil => exact absurd h (fields_ne_nil sep front)
    | cons field rest =>
      simp only [List.cons_append, consField]
      split <;> rfl

/-- The fields of a text, joined again, are the text. -/
theorem joinFields_fields (sep : Char) (cs : List Char) :
    joinFields sep (fields sep cs) = cs := by
  induction cs with
  | nil => rfl
  | cons c cs ih =>
    rw [fields_cons]
    cases h : fields sep cs with
    | nil => exact absurd h (fields_ne_nil sep cs)
    | cons field rest =>
      rw [h] at ih
      by_cases hc : c = sep
      · rw [consField, if_pos hc, joinFields, ih, hc, List.nil_append]
        exact List.cons_ne_nil field rest
      · rw [consField, if_neg hc, ← ih]
        cases rest <;> rfl

/-- There is one field more than there are separators. -/
theorem length_fields (sep : Char) (cs : List Char) :
    (fields sep cs).length = cs.count sep + 1 := by
  induction cs with
  | nil => rfl
  | cons c cs ih =>
    rw [fields_cons]
    cases hfields : fields sep cs with
    | nil => exact absurd hfields (fields_ne_nil sep cs)
    | cons field rest =>
      rw [hfields] at ih
      rw [consField]
      by_cases hc : c = sep
      · rw [if_pos hc, hc, List.count_cons_self, ← ih]
        rfl
      · rw [if_neg hc, List.count_cons_of_ne hc, ← ih]
        rfl

/-- Fields without the separator, joined, are the fields of what they come to. -/
theorem fields_joinFields {sep : Char} {fs : List (List Char)} (hne : fs ≠ [])
    (hfs : ∀ field ∈ fs, sep ∉ field) : fields sep (joinFields sep fs) = fs := by
  induction fs with
  | nil => exact absurd rfl hne
  | cons field rest ih =>
    obtain ⟨hfield, hrest⟩ := List.forall_mem_cons.mp hfs
    cases rest with
    | nil => exact fields_of_not_mem hfield
    | cons next rest =>
      have ih := ih (List.cons_ne_nil next rest) hrest
      rw [joinFields, fields_append_sep, fields_of_not_mem hfield, ih]
      · rfl
      · exact List.cons_ne_nil next rest

theorem mem_of_cutAt {sep : Char} {cs front back : List Char}
    (h : cutAt sep cs = some (front, back)) : sep ∈ cs := by
  induction cs generalizing front back with
  | nil => cases h
  | cons c cs ih =>
    by_cases hc : c = sep
    · exact hc ▸ List.mem_cons_self
    · have hcut : ∃ front' back', cutAt sep cs = some (front', back') := by
        simp only [cutAt, List.dropWhile_cons, bne_iff_ne.mpr hc, if_true] at h ⊢
        split at h
        · cases h
        · exact ⟨_, _, rfl⟩
      obtain ⟨front', back', hcut⟩ := hcut
      exact List.mem_cons_of_mem c (ih hcut)

theorem cutAt_append {sep : Char} {front : List Char} (h : sep ∉ front) (back : List Char) :
    cutAt sep (front ++ sep :: back) = some (front, back) := by
  induction front with
  | nil => simp [cutAt]
  | cons c front ih =>
    rw [List.mem_cons, not_or] at h
    have ih := ih h.2
    simp only [cutAt, List.cons_append, List.dropWhile_cons, List.takeWhile_cons,
      bne_iff_ne.mpr (Ne.symm h.1), if_true] at ih ⊢
    split at ih
    · cases ih
    · simp only [Option.some.injEq, Prod.mk.injEq] at ih
      simp only [ih.1, ih.2]

theorem cutAt_eq_some {sep : Char} {cs front back : List Char} :
    cutAt sep cs = some (front, back) ↔ cs = front ++ sep :: back ∧ sep ∉ front := by
  constructor
  · intro h
    obtain ⟨front', back', rfl, hfront⟩ := List.eq_append_cons_of_mem (mem_of_cutAt h)
    rw [cutAt_append hfront] at h
    cases h
    exact ⟨rfl, hfront⟩
  · intro h
    obtain ⟨rfl, hfront⟩ := h
    exact cutAt_append hfront back

theorem cutAt_eq_none {sep : Char} {cs : List Char} : cutAt sep cs = none ↔ sep ∉ cs := by
  constructor
  · intro h hm
    obtain ⟨front, back, rfl, hfront⟩ := List.eq_append_cons_of_mem hm
    cases (cutAt_append hfront back).symm.trans h
  · intro h
    cases hcut : cutAt sep cs with
    | none => rfl
    | some parts => exact absurd (mem_of_cutAt hcut) h

theorem cutAtLast_eq_some {sep : Char} {cs front back : List Char} :
    cutAtLast sep cs = some (front, back) ↔ cs = front ++ sep :: back ∧ sep ∉ back := by
  simp only [cutAtLast, Option.map_eq_some_iff, Prod.exists, cutAt_eq_some, Prod.mk.injEq]
  constructor
  · rintro ⟨back', front', ⟨hcs, hback⟩, rfl, rfl⟩
    refine ⟨?_, mt List.mem_reverse.mp hback⟩
    rw [← List.reverse_reverse cs, hcs]
    simp
  · rintro ⟨rfl, hback⟩
    exact ⟨back.reverse, front.reverse, by simpa using hback, by simp⟩

/-! ## Decimal numbers -/

/-- The number that a text of decimal digits writes. -/
inductive WritesNat : List Char → Nat → Prop where
  | digit {c : Char} : c.isDigit = true → WritesNat [c] (c.toNat - '0'.toNat)
  | snoc {cs : List Char} {n : Nat} {c : Char} : WritesNat cs n → c.isDigit = true →
      WritesNat (cs ++ [c]) (n * 10 + (c.toNat - '0'.toNat))

theorem WritesNat.isDigit {cs : List Char} {n : Nat} (h : WritesNat cs n) :
    cs ≠ [] ∧ ∀ c ∈ cs, c.isDigit = true := by
  induction h with
  | digit hc => simpa using hc
  | snoc _ hc ih =>
    refine ⟨by simp, fun d hd => ?_⟩
    rcases List.mem_append.mp hd with hd | hd
    · exact ih.2 d hd
    · exact List.mem_singleton.mp hd ▸ hc

theorem writesNat_foldl {cs : List Char} (hne : cs ≠ []) (h : ∀ c ∈ cs, c.isDigit = true) :
    WritesNat cs (cs.foldl (fun n c => n * 10 + (c.toNat - '0'.toNat)) 0) := by
  induction cs using List.reverseRecOn with
  | nil => exact absurd rfl hne
  | append_singleton cs c ih =>
    have hc := h c (by simp)
    rw [List.foldl_append]
    cases cs with
    | nil => simpa using WritesNat.digit hc
    | cons d ds => exact .snoc (ih (by simp) fun x hx => h x (List.mem_append_left _ hx)) hc

theorem WritesNat.foldl_eq {cs : List Char} {n : Nat} (h : WritesNat cs n) :
    cs.foldl (fun n c => n * 10 + (c.toNat - '0'.toNat)) 0 = n := by
  induction h with
  | digit _ => simp
  | snoc _ _ ih => rw [List.foldl_append, ih]; rfl

theorem decimal?_eq_some {cs : List Char} {n : Nat} : decimal? cs = some n ↔ WritesNat cs n := by
  simp only [decimal?, Option.ite_none_right_eq_some, Bool.and_eq_true, Bool.not_eq_true',
    List.isEmpty_eq_false_iff, List.all_eq_true, Option.some.injEq]
  constructor
  · intro h
    obtain ⟨⟨hne, hdigits⟩, rfl⟩ := h
    exact writesNat_foldl hne hdigits
  · intro h
    exact ⟨h.isDigit, h.foldl_eq⟩

theorem isDigit_of_decimal? {cs : List Char} {n : Nat} (h : decimal? cs = some n) :
    ∀ c ∈ cs, c.isDigit = true := (decimal?_eq_some.mp h).isDigit.2

/-- The decimal digits of a number write it. -/
theorem writesNat_toDigits (n : Nat) : WritesNat (Nat.toDigits 10 n) n := by
  induction n using Nat.strongRecOn with
  | ind n ih =>
    have hlt : n % 10 < 10 := Nat.mod_lt n (by decide)
    have hdigit : (Nat.digitChar (n % 10)).isDigit = true := by simpa using hlt
    have hvalue : (Nat.digitChar (n % 10)).toNat - '0'.toNat = n % 10 :=
      Nat.toNat_digitChar_sub_48_of_lt_ten hlt
    rcases Nat.lt_or_ge n 10 with hsmall | hlarge
    · have hone := WritesNat.digit hdigit
      rwa [hvalue, Nat.mod_eq_of_lt hsmall, ← Nat.toDigits_of_lt_base hsmall] at hone
    · have hmore := (ih (n / 10) (by omega)).snoc hdigit
      rwa [hvalue, Nat.div_add_mod', ← Nat.toDigits_of_base_le (by decide) hlarge] at hmore

/-- The digits of a positive number do not start with a zero. -/
theorem head?_toDigits_ne_zero {n : Nat} (hn : 0 < n) :
    (Nat.toDigits 10 n).head? ≠ some '0' := by
  induction n using Nat.strongRecOn with
  | ind n ih =>
    rcases Nat.lt_or_ge n 10 with hsmall | hlarge
    · rw [Nat.toDigits_of_lt_base hsmall, List.head?_cons]
      simpa using Nat.pos_iff_ne_zero.mp hn
    · rw [Nat.toDigits_of_base_le (by decide) hlarge, List.head?_append,
        Option.or_of_isSome (by simp)]
      exact ih (n / 10) (by omega) (by omega)

end AccessDecision.Text
