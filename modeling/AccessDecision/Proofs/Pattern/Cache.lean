import AccessDecision.Pattern.Cache
import Mathlib.Data.List.Nodup

/-
  What the operations on a cache keep

  What is proved:
    1. `tidy_get?` and `tidy_getOrInsert` — a cache never holds more patterns than
       its capacity, nor two under one text (`Tidy`).
    2. `mem_of_mem_get?` and `mem_of_mem_getOrInsert` — looking a text up brings no
       pattern in, and an offer brings in at most the pattern that is offered.
    3. `getOrInsert_fst` — an offer is answered with the pattern that was there
       before, or else with the one that is offered.
    4. `served_get?` and `served_getOrInsert` — if each pattern serves the text it
       is kept under, that stays so, whatever serving a text means.
-/

namespace AccessDecision.PatternCache

variable {c : PatternCache} {key : String} {p q : CompiledPattern}

/-- A cache within its capacity, with one pattern under each of its texts. -/
structure Tidy (c : PatternCache) : Prop where
  size_le : c.size ≤ c.capacity
  keys_nodup : c.keys.Nodup

/-! ## Looking up -/

theorem source_of_peek? (h : c.peek? key = some p) : p.source = key := by
  rw [peek?] at h
  simpa using List.find?_some h

theorem mem_of_peek? (h : c.peek? key = some p) : p ∈ c.entries :=
  List.mem_of_find?_eq_some h

theorem not_mem_keys_of_peek? (h : c.peek? key = none) : key ∉ c.keys := by
  intro hmem
  obtain ⟨p, hp, hkey⟩ := List.mem_map.mp hmem
  rw [peek?, List.find?_eq_none] at h
  exact h p hp (beq_iff_eq.mpr hkey)

/-- In a tidy cache each pattern is the one found under its own text. -/
theorem peek?_source (hc : c.Tidy) (hp : p ∈ c.entries) : c.peek? p.source = some p := by
  cases h : c.peek? p.source with
  | none => exact absurd (List.mem_map_of_mem hp) (not_mem_keys_of_peek? h)
  | some q =>
    have hq : q = p :=
      List.inj_on_of_nodup_map hc.keys_nodup (mem_of_peek? h) hp (source_of_peek? h)
    rw [hq]

theorem get?_of_peek? (h : c.peek? key = some p) : c.get? key = (some p, c.touch p) := by
  rw [get?, h]

theorem get?_of_peek?_none (h : c.peek? key = none) : c.get? key = (none, c) := by
  rw [get?, h]

theorem get?_fst : (c.get? key).1 = c.peek? key := by
  cases h : c.peek? key with
  | none => rw [get?_of_peek?_none h]
  | some p => rw [get?_of_peek? h]

/-! ## What an operation brings in -/

theorem mem_of_mem_touch (hp : p ∈ c.entries) (h : q ∈ (c.touch p).entries) : q ∈ c.entries := by
  rcases List.mem_cons.mp h with rfl | h
  · exact hp
  · exact (List.mem_filter.mp h).1

theorem mem_of_mem_get? (h : q ∈ (c.get? key).2.entries) : q ∈ c.entries := by
  cases hpeek : c.peek? key with
  | none => rwa [get?_of_peek?_none hpeek] at h
  | some p =>
    rw [get?_of_peek? hpeek] at h
    exact mem_of_mem_touch (mem_of_peek? hpeek) h

theorem getOrInsert_of_peek? (h : c.peek? p.source = some q) :
    c.getOrInsert p = (q, c.touch q) := by
  rw [getOrInsert, get?_of_peek? h]

theorem getOrInsert_of_peek?_none (h : c.peek? p.source = none) :
    c.getOrInsert p = (p, c.insert p) := by
  rw [getOrInsert, get?_of_peek?_none h]

theorem mem_of_mem_getOrInsert (h : q ∈ (c.getOrInsert p).2.entries) :
    q = p ∨ q ∈ c.entries := by
  cases hpeek : c.peek? p.source with
  | none =>
    rw [getOrInsert_of_peek?_none hpeek] at h
    exact List.mem_cons.mp (List.mem_of_mem_take h)
  | some stored =>
    rw [getOrInsert_of_peek? hpeek] at h
    exact .inr (mem_of_mem_touch (mem_of_peek? hpeek) h)

/-- An offer is answered with the pattern under the same text, if there is one. -/
theorem getOrInsert_fst : (c.getOrInsert p).1 = (c.peek? p.source).getD p := by
  cases hpeek : c.peek? p.source with
  | none => rw [getOrInsert_of_peek?_none hpeek, Option.getD_none]
  | some stored => rw [getOrInsert_of_peek? hpeek, Option.getD_some]

/-! ## Capacity and tidiness -/

@[simp] theorem capacity_get? (c : PatternCache) (key : String) :
    (c.get? key).2.capacity = c.capacity := by
  rw [get?]
  split <;> rfl

@[simp] theorem capacity_getOrInsert (c : PatternCache) (p : CompiledPattern) :
    (c.getOrInsert p).2.capacity = c.capacity := by
  cases hpeek : c.peek? p.source with
  | none =>
    rw [getOrInsert_of_peek?_none hpeek]
    rfl
  | some stored =>
    rw [getOrInsert_of_peek? hpeek]
    rfl

theorem tidy_empty (capacity : Nat) (h : 0 < capacity) : (empty capacity h).Tidy :=
  ⟨Nat.zero_le _, List.nodup_nil⟩

theorem tidy_clear (c : PatternCache) : c.clear.Tidy := ⟨Nat.zero_le _, List.nodup_nil⟩

theorem keys_touch (p : CompiledPattern) :
    (c.touch p).keys = p.source :: c.keys.filter (· != p.source) := by
  simp only [keys, touch, List.map_cons, List.filter_map]
  rfl

theorem size_touch_le (hp : p ∈ c.entries) : (c.touch p).size ≤ c.size := by
  -- The filter drops at least `p` itself, which pays for the place in front.
  have hlt : (c.entries.filter fun q => q.source != p.source).length < c.entries.length :=
    List.length_filter_lt_length_iff_exists.mpr ⟨p, hp, by simp⟩
  rw [size, touch, List.length_cons]
  exact hlt

theorem tidy_touch (hc : c.Tidy) (hp : p ∈ c.entries) : (c.touch p).Tidy := by
  refine ⟨Nat.le_trans (size_touch_le hp) hc.size_le, ?_⟩
  rw [keys_touch, List.nodup_cons]
  exact ⟨by simp, hc.keys_nodup.filter _⟩

theorem tidy_get? (hc : c.Tidy) (key : String) : (c.get? key).2.Tidy := by
  cases hpeek : c.peek? key with
  | none => rwa [get?_of_peek?_none hpeek]
  | some p =>
    rw [get?_of_peek? hpeek]
    exact tidy_touch hc (mem_of_peek? hpeek)

theorem tidy_getOrInsert (hc : c.Tidy) (p : CompiledPattern) : (c.getOrInsert p).2.Tidy := by
  cases hpeek : c.peek? p.source with
  | some stored =>
    rw [getOrInsert_of_peek? hpeek]
    exact tidy_touch hc (mem_of_peek? hpeek)
  | none =>
    rw [getOrInsert_of_peek?_none hpeek]
    have hnodup : (p.source :: c.keys).Nodup :=
      List.nodup_cons.mpr ⟨not_mem_keys_of_peek? hpeek, hc.keys_nodup⟩
    refine ⟨List.length_take_le c.capacity (p :: c.entries), ?_⟩
    rw [keys, insert, List.map_take]
    exact hnodup.sublist (List.take_sublist _ _)

/-! ## What the patterns are kept for -/

/-- Every pattern of a cache serves the text that it is kept under. -/
def Served (serves : String → CompiledPattern → Prop) (c : PatternCache) : Prop :=
  ∀ p ∈ c.entries, serves p.source p

variable {serves : String → CompiledPattern → Prop}

theorem serves_of_peek? (hc : c.Served serves) (h : c.peek? key = some p) : serves key p := by
  rw [← source_of_peek? h]
  exact hc p (mem_of_peek? h)

theorem served_get? (hc : c.Served serves) (key : String) : (c.get? key).2.Served serves := by
  intro p hp
  exact hc p (mem_of_mem_get? hp)

theorem served_getOrInsert (hc : c.Served serves) (hp : serves p.source p) :
    (c.getOrInsert p).2.Served serves := by
  intro q hq
  rcases mem_of_mem_getOrInsert hq with rfl | hq
  · exact hp
  · exact hc q hq

end AccessDecision.PatternCache
