import AccessDecision.Proofs.Condition.Evaluation
import AccessDecision.Proofs.Unicode.CaseOrbits

/-
  Comparison without regard to case

  Two of the operators on strings compare folded texts. Since folding forgets the case of
  every character and nothing else, the case in which a request or a condition happens to
  be written has no say in what these operators decide.

  What is proved:
    1. `accepts_equalsIgnoreCase` and `accepts_notEqualsIgnoreCase` — what the operators
       ask for, without mention of folding.
    2. `ignored_case_never_counts` — a text whose characters are put into upper or lower
       case folds as before, and in place of the value or of acceptable texts it changes
       nothing.
-/

namespace AccessDecision.Condition

open Unicode (foldCase foldCase_eq_iff Recasing SameTextUpToCase)

variable {x x' : Value} {texts texts' : List String}

/-! ## What the operators ask for -/

/-- One of the acceptable texts is the value up to case. -/
theorem accepts_equalsIgnoreCase :
    (Comparator.ofStrings .equalsIgnoreCase texts).accepts x = true ↔
      ∃ v ∈ texts, SameTextUpToCase x.asText v := by
  simp [accepts_ofStrings, StringRelation.holds, StringRelation.prepare,
    StringRelation.ignoresCase, foldCase_eq_iff]

/-- One of the acceptable texts is not the value, even up to case. -/
theorem accepts_notEqualsIgnoreCase :
    (Comparator.ofStrings .notEqualsIgnoreCase texts).accepts x = true ↔
      ∃ v ∈ texts, ¬ SameTextUpToCase x.asText v := by
  simp [accepts_ofStrings, StringRelation.holds, StringRelation.prepare,
    StringRelation.ignoresCase, foldCase_eq_iff]

/-! ## What does not count -/

/-- A comparison that ignores case decides by the folds of the value and the texts. -/
theorem accepts_of_same_folds {r : StringRelation} (hr : r.ignoresCase = true)
    (hx : foldCase x.asText = foldCase x'.asText)
    (htexts : texts.map foldCase = texts'.map foldCase) :
    (Comparator.ofStrings r texts).accepts x = (Comparator.ofStrings r texts').accepts x' := by
  have hprepare : r.prepare = foldCase := by
    funext s
    rw [StringRelation.prepare, if_pos hr]
  simp only [Comparator.ofStrings, Comparator.accepts, hprepare, hx, htexts]

theorem map_foldCase_eq_iff :
    texts.map foldCase = texts'.map foldCase ↔ List.Forall₂ SameTextUpToCase texts texts' := by
  rw [← List.forall₂_eq_eq_eq, List.forall₂_map_left_iff, List.forall₂_map_right_iff]
  simp only [foldCase_eq_iff]

theorem accepts_up_to_case {op : Operator}
    (hop : op ∈ [Operator.stringEqualsIgnoreCase, .stringNotEqualsIgnoreCase])
    (hx : SameTextUpToCase x.asText x'.asText)
    (htexts : List.Forall₂ SameTextUpToCase texts texts') :
    (op.comparator texts).accepts x = (op.comparator texts').accepts x' := by
  have hfold := foldCase_eq_iff.mpr hx
  have hfolds := map_foldCase_eq_iff.mpr htexts
  rcases List.mem_pair.mp hop with rfl | rfl
  · exact accepts_of_same_folds rfl hfold hfolds
  · exact accepts_of_same_folds rfl hfold hfolds

/-- Texts fold alike exactly if their characters are pairwise the same up to case; in
particular, a text folds as before when any of its characters are put into upper or lower
case, where these are single characters. Folding twice is folding once, and the number of
characters stays. So the two operators that ignore case ask for an acceptable text that is
the value up to case, or that is not, and decide as before when such texts replace the
value and acceptable texts. -/
theorem ignored_case_never_counts :
    (∀ s s', Recasing s s' → foldCase s' = foldCase s) ∧
      (∀ s s', foldCase s' = foldCase s ↔ SameTextUpToCase s' s) ∧
      (∀ s, foldCase (foldCase s) = foldCase s ∧ (foldCase s).length = s.length) ∧
      (∀ (x : Value) (texts : List String),
        ((Operator.stringEqualsIgnoreCase.comparator texts).accepts x = true ↔
          ∃ v ∈ texts, SameTextUpToCase x.asText v) ∧
        ((Operator.stringNotEqualsIgnoreCase.comparator texts).accepts x = true ↔
          ∃ v ∈ texts, ¬ SameTextUpToCase x.asText v)) ∧
      ∀ op ∈ [Operator.stringEqualsIgnoreCase, .stringNotEqualsIgnoreCase],
        ∀ (x x' : Value) (texts texts' : List String),
          Recasing x.asText x'.asText → List.Forall₂ Recasing texts texts' →
          (op.comparator texts').accepts x' = (op.comparator texts).accepts x := by
  refine ⟨?_, fun _ _ => foldCase_eq_iff, ?_, ?_, ?_⟩
  · intro s s' h
    exact (foldCase_eq_iff.mpr h.sameTextUpToCase).symm
  · intro s
    exact ⟨Unicode.foldCase_foldCase s, Unicode.length_foldCase s⟩
  · intro x texts
    exact ⟨accepts_equalsIgnoreCase, accepts_notEqualsIgnoreCase⟩
  · intro op hop x x' texts texts' hx htexts
    apply Eq.symm
    apply accepts_up_to_case hop hx.sameTextUpToCase
    exact htexts.imp fun _ _ h => h.sameTextUpToCase

/-- The final sigma has an upper case and the Kelvin sign a lower case, and from neither do
the mappings lead back. -/
theorem final_sigma_and_kelvin_sign :
    foldCase "ΟΔΟΣ" = foldCase "οδος" ∧ foldCase "k" = foldCase "\u212A" ∧
      (Operator.stringEqualsIgnoreCase.comparator ["k", "ΟΔΟΣ"]).accepts (.string "οδοσ") =
        (Operator.stringEqualsIgnoreCase.comparator ["\u212A", "οδος"]).accepts
          (.string "ΟΔΟΣ") := by
  obtain ⟨hfold, _, _, _, hoperators⟩ := ignored_case_never_counts
  refine ⟨hfold _ _ (by decide +kernel), hfold _ _ (by decide +kernel), ?_⟩
  apply hoperators _ (by simp)
  · show Recasing "ΟΔΟΣ" "οδοσ"
    decide +kernel
  · exact .cons (by decide +kernel) (.cons (by decide +kernel) .nil)

end AccessDecision.Condition
