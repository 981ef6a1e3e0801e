import AccessDecision.Proofs.Unicode.CaseSearch
import AccessDecision.Unicode.Case
import Mathlib.Data.List.Forall2
import Mathlib.Logic.Relation

/-
  Characters up to case

  The case mappings are no inverses of each other: several characters share an upper case,
  others a lower case, and where a mapping yields more than one character it is left out.
  Characters that the mappings connect, in one direction or the other and in any number of
  steps, are the same up to case.

  What is proved:
    1. `upper_upper` and `fold_lower` — an upper case is its own upper case, and a lower
       case folds as the character does. They are checked at the characters in the tables.
    2. `foldChar_eq_iff` — so folding takes characters to one character exactly if they
       are the same up to case, and texts to one text exactly if they are so character by
       character (`foldCase_eq_iff`).
-/

namespace AccessDecision.Unicode

/-! ## The tables -/

/-- The mapping to upper case as a tree. -/
def upperTree : RunTree := .ofRuns 7 upperRuns

/-- The mapping to lower case as a tree. -/
def lowerTree : RunTree := .ofRuns 7 lowerRuns

theorem map_upperTree (n : Nat) : upperTree.map n = mapThrough upperRuns n :=
  RunTree.map_ofRuns 7 (by decide +kernel) n

theorem map_lowerTree (n : Nat) : lowerTree.map n = mapThrough lowerRuns n :=
  RunTree.map_ofRuns 7 (by decide +kernel) n

-- The kernel looks each image up in a tree: through the list of runs it would take minutes.

/-- The characters that have an upper case keep it. -/
theorem upperTree_sources : ((upperRuns.flatMap CaseRun.sources).all fun n =>
    Nat.beq (upperTree.map (upperTree.map n)) (upperTree.map n)) = true := by
  decide +kernel

/-- The characters that have a lower case fold to that of their upper case. -/
theorem lowerTree_sources : ((lowerRuns.flatMap CaseRun.sources).all fun n =>
    Nat.beq (lowerTree.map (upperTree.map (lowerTree.map n)))
      (lowerTree.map (upperTree.map n))) = true := by
  decide +kernel

theorem upper_upper (n : Nat) :
    mapThrough upperRuns (mapThrough upperRuns n) = mapThrough upperRuns n := by
  rcases mapThrough_eq_self_or_mem upperRuns n with h | h
  · rw [h, h]
  · simp only [← map_upperTree]
    exact Nat.beq_eq.mp (List.all_eq_true.mp upperTree_sources n h)

theorem fold_lower (n : Nat) :
    mapThrough lowerRuns (mapThrough upperRuns (mapThrough lowerRuns n)) =
      mapThrough lowerRuns (mapThrough upperRuns n) := by
  rcases mapThrough_eq_self_or_mem lowerRuns n with h | h
  · rw [h]
  · simp only [← map_upperTree, ← map_lowerTree]
    exact Nat.beq_eq.mp (List.all_eq_true.mp lowerTree_sources n h)

/-! ## The mappings on characters -/

/-- The run takes no character out of the characters. -/
def CaseRun.IntoChars (r : CaseRun) : Prop :=
  r.last + r.offset < 0xD800 ∨ 0xDFFF < r.first + r.offset ∧ r.last + r.offset < 0x110000

instance : DecidablePred CaseRun.IntoChars := fun _ => inferInstanceAs (Decidable (_ ∨ _))

theorem isValidChar_mapThrough {runs : List CaseRun} (hruns : ∀ r ∈ runs, r.IntoChars) {n : Nat}
    (h : n.isValidChar) : (mapThrough runs n).isValidChar := by
  induction runs with
  | nil => exact h
  | cons r rest ih =>
    obtain ⟨hr, hrest⟩ := List.forall_mem_cons.mp hruns
    rw [mapThrough]
    split
    · rename_i hcovers
      obtain ⟨hfirst, hlast, -⟩ := CaseRun.covers_iff.mp hcovers
      rw [CaseRun.IntoChars] at hr
      rw [CaseRun.image, Nat.isValidChar]
      omega
    · exact ih hrest

theorem toNat_mapChar {runs : List CaseRun} (hruns : ∀ r ∈ runs, r.IntoChars) (c : Char) :
    (mapChar runs c).toNat = mapThrough runs c.toNat := by
  have hvalid : (mapThrough runs c.toNat).isValidChar := isValidChar_mapThrough hruns c.valid
  rw [mapChar, charAt, dif_pos hvalid]
  rfl

theorem toNat_toUpper (c : Char) : (toUpper c).toNat = mapThrough upperRuns c.toNat :=
  toNat_mapChar (by decide +kernel) c

theorem toNat_toLower (c : Char) : (toLower c).toNat = mapThrough lowerRuns c.toNat :=
  toNat_mapChar (by decide +kernel) c

theorem toUpper_toUpper (c : Char) : toUpper (toUpper c) = toUpper c := by
  apply Char.toNat_inj.mp
  simp only [toNat_toUpper, upper_upper]

theorem foldChar_toUpper (c : Char) : foldChar (toUpper c) = foldChar c := by
  rw [foldChar, toUpper_toUpper, foldChar]

theorem foldChar_toLower (c : Char) : foldChar (toLower c) = foldChar c := by
  apply Char.toNat_inj.mp
  simp only [foldChar, toNat_toUpper, toNat_toLower, fold_lower]

/-! ## Characters up to case -/

/-- The second character is the first, its upper case or its lower case. -/
def Recased (c d : Char) : Prop := d = c ∨ d = toUpper c ∨ d = toLower c

instance : DecidableRel Recased := fun _ _ => inferInstanceAs (Decidable (_ ∨ _))

/-- The case mappings connect two characters. -/
def SameUpToCase : Char → Char → Prop := Relation.EqvGen Recased

variable {c d : Char} {s t : String}

theorem sameUpToCase_toUpper (c : Char) : SameUpToCase c (toUpper c) :=
  .rel _ _ (.inr (.inl rfl))

theorem sameUpToCase_toLower (c : Char) : SameUpToCase c (toLower c) :=
  .rel _ _ (.inr (.inr rfl))

/-- Folding goes two steps, so it stays among the characters that are the same up to case. -/
theorem sameUpToCase_foldChar (c : Char) : SameUpToCase c (foldChar c) :=
  .trans _ _ _ (sameUpToCase_toUpper c) (sameUpToCase_toLower (toUpper c))

theorem foldChar_recased (h : Recased c d) : foldChar c = foldChar d := by
  rcases h with rfl | rfl | rfl
  · rfl
  · rw [foldChar_toUpper]
  · rw [foldChar_toLower]

/-- Characters fold to one exactly if they are the same up to case. -/
theorem foldChar_eq_iff : foldChar c = foldChar d ↔ SameUpToCase c d := by
  constructor
  · intro h
    have hd : SameUpToCase (foldChar c) d := by
      rw [h]
      exact .symm _ _ (sameUpToCase_foldChar d)
    exact .trans _ _ _ (sameUpToCase_foldChar c) hd
  · intro h
    -- One step of the mappings keeps the fold, and to have one fold is an equivalence.
    induction h with
    | rel _ _ h => exact foldChar_recased h
    | refl => rfl
    | symm _ _ _ ih => exact ih.symm
    | trans _ _ _ _ _ ih₁ ih₂ => exact ih₁.trans ih₂

theorem foldChar_foldChar (c : Char) : foldChar (foldChar c) = foldChar c := by
  apply Eq.symm
  rw [foldChar_eq_iff]
  exact sameUpToCase_foldChar c

/-! ## Texts up to case -/

theorem toList_foldCase (s : String) : (foldCase s).toList = s.toList.map foldChar := by
  rw [foldCase, String.toList_ofList]

theorem length_foldCase (s : String) : (foldCase s).length = s.length := by
  rw [← String.length_toList, toList_foldCase, List.length_map, String.length_toList]

theorem foldCase_foldCase (s : String) : foldCase (foldCase s) = foldCase s := by
  have hchars : foldChar ∘ foldChar = foldChar := by
    funext c
    rw [Function.comp_apply, foldChar_foldChar]
  rw [← String.toList_inj, toList_foldCase, toList_foldCase, List.map_map, hchars]

/-- Characters of the first text may be replaced by their upper or lower case in the
second. -/
def Recasing (s t : String) : Prop := List.Forall₂ Recased s.toList t.toList

instance : DecidableRel Recasing := fun s t =>
  decidable_of_iff
    (s.toList.length = t.toList.length ∧ ∀ p ∈ s.toList.zip t.toList, Recased p.1 p.2)
    (by simp only [Recasing, List.forall₂_iff_zip, Prod.forall])

/-- The characters of two texts are pairwise the same up to case. -/
def SameTextUpToCase (s t : String) : Prop := List.Forall₂ SameUpToCase s.toList t.toList

theorem Recasing.sameTextUpToCase (h : Recasing s t) : SameTextUpToCase s t :=
  h.imp fun _ _ => .rel _ _

/-- Texts fold to one exactly if they are the same up to case, character by character. -/
theorem foldCase_eq_iff : foldCase s = foldCase t ↔ SameTextUpToCase s t := by
  rw [← String.toList_inj, toList_foldCase, toList_foldCase, ← List.forall₂_eq_eq_eq,
    List.forall₂_map_left_iff, List.forall₂_map_right_iff]
  simp only [foldChar_eq_iff]
  rfl

end AccessDecision.Unicode
