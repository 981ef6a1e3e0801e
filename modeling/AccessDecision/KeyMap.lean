/-
  Maps from names

  A map is the list of its entries in ascending order of their names, each name
  once. So two maps that hold the same values under the same names are equal,
  and the order of the entries is that of the names.

  What is proved:
    1. `insert` keeps the order (`sorted_insertEntry`), which makes it an
       operation on maps.
    2. `get?_insert` — after an insertion the name has the new value and every
       other name the value it had.
-/

namespace AccessDecision

/-- A map from names to values. -/
structure KeyMap (α : Type) where
  entries : List (String × α)
  sorted : entries.Pairwise (fun a b => a.1 < b.1)

namespace KeyMap

variable {α : Type}

@[ext]
theorem ext {m m' : KeyMap α} (h : m.entries = m'.entries) : m = m' := by
  cases m; cases m'; cases h; rfl

instance [DecidableEq α] : DecidableEq (KeyMap α) := fun m m' =>
  decidable_of_iff (m.entries = m'.entries) ⟨ext, fun h => h ▸ rfl⟩

/-- The map without entries. -/
def empty : KeyMap α := ⟨[], .nil⟩

instance : Inhabited (KeyMap α) := ⟨empty⟩

/-- Whether there is no entry. -/
def isEmpty (m : KeyMap α) : Bool := m.entries.isEmpty

/-- The number of entries. -/
def size (m : KeyMap α) : Nat := m.entries.length

/-- The names in ascending order. -/
def keys (m : KeyMap α) : List String := m.entries.map (·.1)

/-- The value that an entry list holds under a name. -/
def lookup? (k : String) : List (String × α) → Option α
  | [] => none
  | (k', v) :: rest => if k' = k then some v else lookup? k rest

/-- The value under a name. -/
def get? (m : KeyMap α) (k : String) : Option α := lookup? k m.entries

/-- Puts an entry in its place, in place of an earlier one of the same name. -/
def insertEntry (k : String) (v : α) : List (String × α) → List (String × α)
  | [] => [(k, v)]
  | (k', v') :: rest =>
    if k < k' then (k, v) :: (k', v') :: rest
    else if k = k' then (k, v) :: rest
    else (k', v') :: insertEntry k v rest

theorem mem_insertEntry {k : String} {v : α} {e : String × α} {l : List (String × α)}
    (h : e ∈ insertEntry k v l) : e = (k, v) ∨ e ∈ l := by
  induction l with
  | nil => simpa [insertEntry] using h
  | cons head rest ih =>
    obtain ⟨k', v'⟩ := head
    simp only [insertEntry] at h
    split at h
    · simpa using h
    · split at h
      · simp only [List.mem_cons] at h ⊢
        exact h.imp_right .inr
      · simp only [List.mem_cons] at h ⊢
        rcases h with h | h
        · exact .inr (.inl h)
        · exact (ih h).imp_right .inr

theorem sorted_insertEntry (k : String) (v : α) {l : List (String × α)}
    (h : l.Pairwise (fun a b => a.1 < b.1)) :
    (insertEntry k v l).Pairwise (fun a b => a.1 < b.1) := by
  induction l with
  | nil => exact List.pairwise_singleton _ _
  | cons head rest ih =>
    obtain ⟨k', v'⟩ := head
    have hrest := List.pairwise_cons.mp h
    simp only [insertEntry]
    split
    · rename_i hlt
      refine List.pairwise_cons.mpr ⟨fun e he => ?_, h⟩
      rcases List.mem_cons.mp he with rfl | he
      · exact hlt
      · exact String.lt_trans hlt (hrest.1 e he)
    · split
      · rename_i heq
        subst heq
        exact List.pairwise_cons.mpr hrest
      · rename_i hlt hne
        refine List.pairwise_cons.mpr ⟨fun e he => ?_, ih hrest.2⟩
        rcases mem_insertEntry he with rfl | he
        · exact Decidable.not_not.mp fun hgt =>
            hne (String.le_antisymm (String.not_lt.mp hgt) (String.not_lt.mp hlt))
        · exact hrest.1 e he

/-- Sets the value under a name. -/
def insert (m : KeyMap α) (k : String) (v : α) : KeyMap α :=
  ⟨insertEntry k v m.entries, sorted_insertEntry k v m.sorted⟩

/-- The map that a list of entries gives, where later entries replace earlier
ones. -/
def ofList (l : List (String × α)) : KeyMap α :=
  l.foldl (fun m e => m.insert e.1 e.2) empty

theorem lookup?_insertEntry (k : String) (v : α) (l : List (String × α)) (k' : String) :
    lookup? k' (insertEntry k v l) = if k = k' then some v else lookup? k' l := by
  induction l with
  | nil => rfl
  | cons head rest ih =>
    obtain ⟨k₀, v₀⟩ := head
    simp only [insertEntry]
    split
    · rfl
    · split
      · rename_i heq
        subst heq
        simp only [lookup?]
        split <;> rfl
      · rename_i hne
        simp only [lookup?, ih]
        split
        · rename_i h
          rw [if_neg fun hk => hne (hk.trans h.symm)]
        · rfl

/-- After an insertion the name has the new value, and every other name the value
it had. -/
theorem get?_insert (m : KeyMap α) (k : String) (v : α) (k' : String) :
    (m.insert k v).get? k' = if k = k' then some v else m.get? k' :=
  lookup?_insertEntry k v m.entries k'

/-- Applies a function to every value. -/
def map {β : Type} (f : α → β) (m : KeyMap α) : KeyMap β :=
  ⟨m.entries.map fun e => (e.1, f e.2), List.pairwise_map.mpr m.sorted⟩

end KeyMap

end AccessDecision
