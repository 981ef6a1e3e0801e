import AccessDecision.KeyMap

/-
  Maps by their look-ups

  The entries of a map are exactly what look-ups find, because no name occurs
  twice.

  What is proved:
    1. `mem_entries` — an entry is in the map exactly if its value is found under
       its name.
    2. `get?_ofList` — of a list of entries the map holds those whose name does not
       occur again behind them (`lasting`), which are all of them if no name
       occurs twice (`lasting_of_nodup`).
    3. `mem_lasting_iff` — the entry that lasts of a name is the last one of it
       (`LastOf`). What the last one of some names is depends on the entries of these
       names only (`lastOf_filter`).
    4. `eq_of_get?` — a map is what its look-ups find, so its entries come to it in any
       order (`ofList_of_perm`).
-/

namespace AccessDecision.KeyMap

variable {α : Type}

theorem lookup?_eq_none {k : String} {l : List (String × α)} (h : ∀ e ∈ l, k < e.1) :
    lookup? k l = none := by
  induction l with
  | nil => rfl
  | cons head rest ih =>
    obtain ⟨k', v⟩ := head
    have hlt : k < k' := h (k', v) List.mem_cons_self
    have hne : k' ≠ k := fun heq => String.lt_irrefl k (heq ▸ hlt)
    rw [lookup?, if_neg hne]
    exact ih fun e he => h e (List.mem_cons_of_mem _ he)

/-- In ascending order a name is found with the value of its entry. -/
theorem mem_iff_lookup? {k : String} {v : α} {l : List (String × α)}
    (h : l.Pairwise (fun a b => a.1 < b.1)) : (k, v) ∈ l ↔ lookup? k l = some v := by
  induction l with
  | nil => simp [lookup?]
  | cons head rest ih =>
    obtain ⟨k', v'⟩ := head
    obtain ⟨hhead, hrest⟩ := List.pairwise_cons.mp h
    have ih := ih hrest
    by_cases hk : k' = k
    · subst hk
      have hnone := lookup?_eq_none hhead
      have hnot : (k', v) ∉ rest := fun hm => by simp [hnone] at ih; exact ih hm
      simp [lookup?, hnot, eq_comm]
    · have hne : (k, v) ≠ (k', v') := fun heq => hk (congrArg Prod.fst heq).symm
      simp [lookup?, hk, hne, ih]

theorem mem_entries {m : KeyMap α} {k : String} {v : α} :
    (k, v) ∈ m.entries ↔ m.get? k = some v := mem_iff_lookup? m.sorted

theorem lookup?_map {β : Type} (f : α → β) (k : String) (l : List (String × α)) :
    lookup? k (l.map fun e => (e.1, f e.2)) = (lookup? k l).map f := by
  induction l with
  | nil => rfl
  | cons e rest ih =>
    rw [List.map_cons, lookup?, lookup?, ih]
    split <;> rfl

theorem get?_map {β : Type} (f : α → β) (m : KeyMap α) (k : String) :
    (m.map f).get? k = (m.get? k).map f := lookup?_map f k m.entries

theorem mem_keys {m : KeyMap α} {k : String} : k ∈ m.keys ↔ ∃ v, m.get? k = some v := by
  simp only [keys, List.mem_map, Prod.exists, exists_and_right, exists_eq_right, mem_entries]

/-- The values that a function of name and value has, under the same names. -/
def filterMap {β : Type} (f : String → α → Option β) (m : KeyMap α) : KeyMap β where
  entries := m.entries.filterMap fun e => (f e.1 e.2).map (e.1, ·)
  sorted := by
    refine m.sorted.filterMap _ ?_
    intro a b hlt a' ha b' hb
    obtain ⟨_, _, rfl⟩ := Option.map_eq_some_iff.mp ha
    obtain ⟨_, _, rfl⟩ := Option.map_eq_some_iff.mp hb
    exact hlt

theorem get?_filterMap {β : Type} (f : String → α → Option β) (m : KeyMap α) (k : String) :
    (m.filterMap f).get? k = (m.get? k).bind (f k) := by
  refine Option.ext fun v => ?_
  rw [← mem_entries, Option.bind_eq_some_iff]
  simp only [filterMap, List.mem_filterMap, Option.map_eq_some_iff, Prod.mk.injEq, Prod.exists,
    ← mem_entries]
  constructor
  · rintro ⟨k, x, hmem, y, hf, rfl, rfl⟩
    exact ⟨x, hmem, hf⟩
  · rintro ⟨x, hmem, hf⟩
    exact ⟨k, x, hmem, v, hf, rfl, rfl⟩

/-! ## Maps of entry lists -/

/-- The entries whose name does not occur again behind them. -/
def lasting : List (String × α) → List (String × α)
  | [] => []
  | e :: rest => if rest.any (fun e' => e'.1 == e.1) then lasting rest else e :: lasting rest

theorem mem_lasting_cons {k : String} {v : α} {e : String × α} {rest : List (String × α)} :
    (k, v) ∈ lasting (e :: rest) ↔
      (k, v) ∈ lasting rest ∨ (∀ e' ∈ rest, e'.1 ≠ k) ∧ e = (k, v) := by
  have hany : rest.any (fun e' => e'.1 == e.1) = true ↔ ∃ e' ∈ rest, e'.1 = e.1 := by
    simp [List.any_eq_true]
  rw [lasting]
  split
  · rename_i hagain
    obtain ⟨e', he', hname⟩ := hany.mp hagain
    refine ⟨.inl, fun h => h.elim id fun ⟨hnone, heq⟩ => ?_⟩
    exact absurd (hname.trans (congrArg Prod.fst heq)) (hnone e' he')
  · rename_i hagain
    have hnone : ∀ e' ∈ rest, e'.1 ≠ e.1 := fun e' he' hname => hagain (hany.mpr ⟨e', he', hname⟩)
    rw [List.mem_cons]
    constructor
    · intro h
      rcases h with heq | h
      · subst heq
        exact .inr ⟨hnone, rfl⟩
      · exact .inl h
    · intro h
      rcases h with h | ⟨_, heq⟩
      · exact .inr h
      · exact .inl heq.symm

/-- Entries put into a map one after the other: the last one of a name stays, and
what the map held before stays under the other names. -/
theorem get?_foldl_insert {k : String} {v : α} (l : List (String × α)) (m : KeyMap α) :
    (l.foldl (fun m e => m.insert e.1 e.2) m).get? k = some v ↔
      (k, v) ∈ lasting l ∨ (∀ e ∈ l, e.1 ≠ k) ∧ m.get? k = some v := by
  induction l generalizing m with
  | nil => simp [lasting]
  | cons e rest ih =>
    obtain ⟨k', v'⟩ := e
    rw [List.foldl_cons, ih, get?_insert, mem_lasting_cons, List.forall_mem_cons, Prod.mk.injEq,
      or_assoc]
    by_cases hk : k' = k
    · simp [hk]
    · simp [hk]

theorem mem_of_mem_lasting {e : String × α} {l : List (String × α)} (h : e ∈ lasting l) :
    e ∈ l := by
  induction l with
  | nil => exact h
  | cons e' rest ih =>
    obtain ⟨k, v⟩ := e
    rcases mem_lasting_cons.mp h with h | ⟨_, rfl⟩
    · exact List.mem_cons_of_mem _ (ih h)
    · exact List.mem_cons_self

theorem get?_ofList {k : String} {v : α} {l : List (String × α)} :
    (ofList l).get? k = some v ↔ (k, v) ∈ lasting l := by
  have hempty : (empty : KeyMap α).get? k ≠ some v := nofun
  rw [ofList, get?_foldl_insert]
  simp [hempty]

theorem lasting_map {β : Type} (f : α → β) (l : List (String × α)) :
    lasting (l.map fun e => (e.1, f e.2)) = (lasting l).map fun e => (e.1, f e.2) := by
  induction l with
  | nil => rfl
  | cons e rest ih =>
    rw [List.map_cons, lasting, lasting, ih, List.any_map]
    show (if rest.any (fun e' => e'.1 == e.1) then _ else _) = _
    split <;> rfl

theorem lasting_of_nodup {l : List (String × α)} (h : (l.map (·.1)).Nodup) : lasting l = l := by
  induction l with
  | nil => rfl
  | cons e rest ih =>
    rw [List.map_cons, List.nodup_cons] at h
    have hagain : ¬ rest.any (fun e' => e'.1 == e.1) = true := by
      intro hany
      obtain ⟨e', he', hname⟩ := List.any_eq_true.mp hany
      exact h.1 (List.mem_map.mpr ⟨e', he', eq_of_beq hname⟩)
    rw [lasting, if_neg hagain, ih h.2]

/-! ## The last of the entries of a list -/

/-- The value of the last entry of a list whose name is of some kind. -/
def LastOf (p : String → Prop) (l : List (String × α)) (v : α) : Prop :=
  ∃ before k after, l = before ++ (k, v) :: after ∧ p k ∧ ∀ e ∈ after, ¬ p e.1

section
variable {p : String → Prop} {e : String × α} {l : List (String × α)} {v v' : α}

theorem lastOf_nil : ¬ LastOf p ([] : List (String × α)) v := by
  rintro ⟨before, k, after, heq, _⟩
  simp at heq

theorem lastOf_cons :
    LastOf p (e :: l) v ↔ LastOf p l v ∨ p e.1 ∧ e.2 = v ∧ ∀ e' ∈ l, ¬ p e'.1 := by
  constructor
  · rintro ⟨before, k, after, heq, hk, hafter⟩
    cases before with
    | nil =>
      cases heq
      exact .inr ⟨hk, rfl, hafter⟩
    | cons _ before =>
      cases heq
      exact .inl ⟨before, k, after, rfl, hk, hafter⟩
  · rintro (⟨before, k, after, rfl, hk, hafter⟩ | ⟨hk, rfl, hafter⟩)
    · exact ⟨e :: before, k, after, rfl, hk, hafter⟩
    · exact ⟨[], e.1, l, rfl, hk, hafter⟩

theorem LastOf.mem (h : LastOf p l v) : ∃ e ∈ l, p e.1 := by
  obtain ⟨before, k, after, rfl, hk, _⟩ := h
  exact ⟨(k, v), by simp, hk⟩

/-- There is a last entry of a kind if there is any. -/
theorem exists_lastOf (h : ∃ e ∈ l, p e.1) : ∃ v, LastOf p l v := by
  induction l with
  | nil =>
    obtain ⟨e, he, _⟩ := h
    cases he
  | cons e l ih =>
    by_cases hl : ∃ e' ∈ l, p e'.1
    · obtain ⟨v, hv⟩ := ih hl
      exact ⟨v, lastOf_cons.mpr (.inl hv)⟩
    · obtain ⟨e', he', hp⟩ := h
      rcases List.mem_cons.mp he' with rfl | he'
      · exact ⟨e'.2, lastOf_cons.mpr (.inr ⟨hp, rfl, fun e he hp => hl ⟨e, he, hp⟩⟩)⟩
      · exact absurd ⟨e', he', hp⟩ hl

theorem LastOf.unique (h : LastOf p l v) (h' : LastOf p l v') : v = v' := by
  induction l with
  | nil => exact absurd h lastOf_nil
  | cons e l ih =>
    rcases lastOf_cons.mp h with h | ⟨_, rfl, hnone⟩
    · rcases lastOf_cons.mp h' with h' | ⟨_, _, hnone⟩
      · exact ih h h'
      · obtain ⟨e', he', hp⟩ := h.mem
        exact absurd hp (hnone e' he')
    · rcases lastOf_cons.mp h' with h' | ⟨_, heq, _⟩
      · obtain ⟨e', he', hp⟩ := h'.mem
        exact absurd hp (hnone e' he')
      · exact heq

/-- Names that are written in another way are of the kind that the names they are
written as are of. -/
theorem lastOf_map {f : String → String} :
    LastOf p (l.map fun e => (f e.1, e.2)) v ↔ LastOf (fun k => p (f k)) l v := by
  induction l with
  | nil => exact iff_of_false lastOf_nil lastOf_nil
  | cons e l ih => rw [List.map_cons, lastOf_cons, lastOf_cons, ih, List.forall_mem_map]

/-- Entries whose name is of another kind do not matter. -/
theorem lastOf_filter {q : String → Bool} (h : ∀ k, p k → q k = true) :
    LastOf p (l.filter fun e => q e.1) v ↔ LastOf p l v := by
  induction l with
  | nil => rfl
  | cons e l ih =>
    by_cases hq : q e.1 = true
    · have hnone : (∀ e' ∈ l.filter fun e => q e.1, ¬ p e'.1) ↔ ∀ e' ∈ l, ¬ p e'.1 := by
        simp only [List.mem_filter, and_imp]
        exact forall₂_congr fun e' _ => ⟨fun hn hp => hn (h _ hp) hp, fun hn _ => hn⟩
      rw [List.filter_cons, if_pos hq, lastOf_cons, lastOf_cons, ih, hnone]
    · have hp : ¬ p e.1 := fun hp => hq (h _ hp)
      rw [List.filter_cons, if_neg hq, lastOf_cons, ih]
      exact ⟨.inl, fun hl => hl.elim id fun ⟨hp', _⟩ => absurd hp' hp⟩

end

theorem mem_lasting_iff {k : String} {v : α} {l : List (String × α)} :
    (k, v) ∈ lasting l ↔ LastOf (· = k) l v := by
  induction l with
  | nil => exact iff_of_false List.not_mem_nil lastOf_nil
  | cons e l ih =>
    rw [mem_lasting_cons, lastOf_cons, ih, Prod.ext_iff, and_comm (b := _ ∧ _), and_assoc]

/-! ## Entries in another order -/

theorem nodup_keys (m : KeyMap α) : (m.entries.map (·.1)).Nodup := by
  rw [List.nodup_iff_pairwise_ne, List.pairwise_map]
  refine m.sorted.imp ?_
  intro a b hlt heq
  exact String.lt_irrefl b.1 (heq ▸ hlt)

theorem nodup_entries (m : KeyMap α) : m.entries.Nodup :=
  List.Pairwise.of_map Prod.fst (fun _ _ hne heq => hne (congrArg Prod.fst heq)) (nodup_keys m)

/-- Maps that hold the same values under the same names are equal. -/
theorem eq_of_get? {m m' : KeyMap α} (h : ∀ k, m.get? k = m'.get? k) : m = m' := by
  have hmem : ∀ e, e ∈ m.entries ↔ e ∈ m'.entries := by
    intro (k, v)
    rw [mem_entries, mem_entries, h]
  have hperm : m.entries.Perm m'.entries :=
    (List.perm_ext_iff_of_nodup (nodup_entries m) (nodup_entries m')).mpr hmem
  refine ext (hperm.eq_of_pairwise ?_ m.sorted m'.sorted)
  intro a b _ _ hab hba
  exact absurd (String.lt_trans hab hba) (String.lt_irrefl a.1)

/-- The entries of a map come to it in whatever order they stand. -/
theorem ofList_of_perm {l : List (String × α)} {m : KeyMap α} (h : l.Perm m.entries) :
    ofList l = m := by
  have hnodup : (l.map (·.1)).Nodup := ((h.map _).nodup_iff).mpr (nodup_keys m)
  refine eq_of_get? fun k => Option.ext fun v => ?_
  rw [get?_ofList, lasting_of_nodup hnodup, h.mem_iff, mem_entries]

end AccessDecision.KeyMap
