import AccessDecision.Unicode.CaseRun
import Mathlib.Data.List.Chain

/-
  Searching case mappings

  A case mapping is a list of runs, and a character outside all of them is its own image.
  So what is to be shown of every character is shown of those in the runs, one by one. To
  find their images fast the runs are put into a tree, whose nodes part the lower code
  points from the higher ones.

  What is proved:
    1. `mapThrough_eq_self_or_mem` — a character is its own image or lies in a run.
    2. `map_ofRuns` — in runs that stand in ascending order, the tree finds the images
       that the list has.
-/

namespace AccessDecision.Unicode

variable {runs front back : List CaseRun} {c : Nat}

/-! ## The characters of runs -/

theorem CaseRun.covers_iff {r : CaseRun} :
    r.covers c = true ↔ r.first ≤ c ∧ c ≤ r.last ∧ (c - r.first) % r.step = 0 := by
  simp [covers, and_assoc]

theorem CaseRun.mem_sources {r : CaseRun} (h : r.covers c = true) : c ∈ r.sources := by
  obtain ⟨hfirst, hlast, hstep⟩ := covers_iff.mp h
  rw [sources, List.mem_map]
  refine ⟨(c - r.first) / r.step, List.mem_range.mpr (Nat.lt_succ_of_le ?_), ?_⟩
  · exact Nat.div_le_div_right (Nat.sub_le_sub_right hlast r.first)
  · calc r.first + r.step * ((c - r.first) / r.step)
        = r.first + (c - r.first) := by rw [Nat.mul_div_cancel' (Nat.dvd_of_mod_eq_zero hstep)]
      _ = c := Nat.add_sub_of_le hfirst

/-- A character outside all runs is its own image. -/
theorem mapThrough_eq_self (h : ∀ r ∈ runs, r.covers c = false) : mapThrough runs c = c := by
  induction runs with
  | nil => rfl
  | cons r rest ih =>
    obtain ⟨hr, hrest⟩ := List.forall_mem_cons.mp h
    rw [mapThrough, hr, ih hrest]
    rfl

/-- A character is its own image or lies in a run. -/
theorem mapThrough_eq_self_or_mem (runs : List CaseRun) (c : Nat) :
    mapThrough runs c = c ∨ c ∈ runs.flatMap CaseRun.sources := by
  by_cases h : ∃ r ∈ runs, r.covers c = true
  · obtain ⟨r, hr, hc⟩ := h
    exact .inr (List.mem_flatMap.mpr ⟨r, hr, CaseRun.mem_sources hc⟩)
  · apply Or.inl
    apply mapThrough_eq_self
    intro r hr
    rw [← Bool.not_eq_true]
    exact fun hc => h ⟨r, hr, hc⟩

theorem mapThrough_append_left (h : ∀ r ∈ back, r.covers c = false) :
    mapThrough (front ++ back) c = mapThrough front c := by
  induction front with
  | nil => exact mapThrough_eq_self h
  | cons r rest ih => rw [List.cons_append, mapThrough, mapThrough, ih]

theorem mapThrough_append_right (h : ∀ r ∈ front, r.covers c = false) :
    mapThrough (front ++ back) c = mapThrough back c := by
  induction front with
  | nil => rfl
  | cons r rest ih =>
    obtain ⟨hr, hrest⟩ := List.forall_mem_cons.mp h
    rw [List.cons_append, mapThrough, hr, ih hrest]
    rfl

/-! ## The tree -/

/-- Runs in a tree. -/
inductive RunTree where
  | leaf (runs : List CaseRun)
  /-- Code points from `bound` on are looked for `above`, all others `below`. -/
  | node (bound : Nat) (below above : RunTree)

namespace RunTree

/-- The image of a code point. -/
def map : RunTree → Nat → Nat
  | leaf runs, c => mapThrough runs c
  | node bound below above, c => bif Nat.ble bound c then above.map c else below.map c

/-- The runs from the left to the right. -/
def toList : RunTree → List CaseRun
  | leaf runs => runs
  | node _ below above => below.toList ++ above.toList

/-- Runs halved so many times. -/
def ofRuns : (depth : Nat) → List CaseRun → RunTree
  | 0, runs => leaf runs
  | depth + 1, runs =>
    match runs.drop (runs.length / 2) with
    | [] => leaf runs
    | r :: back =>
      node r.first (ofRuns depth (runs.take (runs.length / 2))) (ofRuns depth (r :: back))

/-- Each node parts its runs. -/
def Parted : RunTree → Prop
  | leaf _ => True
  | node bound below above =>
    (∀ r ∈ below.toList, r.last < bound) ∧ (∀ r ∈ above.toList, bound ≤ r.first) ∧
      below.Parted ∧ above.Parted

theorem map_eq {t : RunTree} (h : t.Parted) (c : Nat) : t.map c = mapThrough t.toList c := by
  induction t with
  | leaf runs => rfl
  | node bound below above ihbelow ihabove =>
    obtain ⟨hbelow, habove, hpbelow, hpabove⟩ := h
    rw [map, toList, ihbelow hpbelow, ihabove hpabove]
    by_cases hc : bound ≤ c
    · rw [Nat.ble_eq.mpr hc, cond_true, mapThrough_append_right]
      intro r hr
      rw [← Bool.not_eq_true, CaseRun.covers_iff]
      have hlast := hbelow r hr
      omega
    · have hble : Nat.ble bound c = false := by
        rw [← Bool.not_eq_true, Nat.ble_eq]
        exact hc
      rw [hble, cond_false, mapThrough_append_left]
      intro r hr
      rw [← Bool.not_eq_true, CaseRun.covers_iff]
      have hfirst := habove r hr
      omega

theorem toList_ofRuns (depth : Nat) (rs : List CaseRun) : (ofRuns depth rs).toList = rs := by
  induction depth generalizing rs with
  | zero => rfl
  | succ depth ih =>
    rw [ofRuns]
    split
    · rfl
    · rename_i r back hdrop
      rw [toList, ih, ih, ← hdrop, List.take_append_drop]

end RunTree

/-- A run that is not empty, and one behind it. -/
def CaseRun.Before (r s : CaseRun) : Prop := r.first ≤ r.last ∧ r.last < s.first

instance : DecidableRel CaseRun.Before := fun _ _ => inferInstanceAs (Decidable (_ ∧ _))

instance : IsTrans CaseRun CaseRun.Before := by
  refine ⟨fun r s t hrs hst => ⟨hrs.1, ?_⟩⟩
  calc r.last < s.first := hrs.2
    _ ≤ s.last := hst.1
    _ < t.first := hst.2

theorem RunTree.parted_ofRuns (depth : Nat) {rs : List CaseRun}
    (h : rs.Pairwise CaseRun.Before) : (ofRuns depth rs).Parted := by
  induction depth generalizing rs with
  | zero => trivial
  | succ depth ih =>
    rw [ofRuns]
    split
    · trivial
    · rename_i r back hdrop
      have hparts := h
      rw [← List.take_append_drop (rs.length / 2) rs, hdrop, List.pairwise_append] at hparts
      obtain ⟨hfront, hback, hacross⟩ := hparts
      refine ⟨?_, ?_, ih hfront, ih hback⟩
      · intro s hs
        rw [toList_ofRuns] at hs
        exact (hacross s hs r List.mem_cons_self).2
      · intro s hs
        rw [toList_ofRuns] at hs
        rcases List.mem_cons.mp hs with rfl | hs
        · exact Nat.le_refl _
        · obtain ⟨hle, hlt⟩ := List.rel_of_pairwise_cons hback hs
          exact Nat.le_of_lt (hle.trans_lt hlt)

/-- In runs that stand in ascending order, the tree finds the images. -/
theorem RunTree.map_ofRuns (depth : Nat) (h : runs.IsChain CaseRun.Before) (c : Nat) :
    (ofRuns depth runs).map c = mapThrough runs c := by
  rw [map_eq (parted_ofRuns depth (List.isChain_iff_pairwise.mp h)), toList_ofRuns]

end AccessDecision.Unicode
