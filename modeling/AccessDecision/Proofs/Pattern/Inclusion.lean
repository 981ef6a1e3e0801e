import AccessDecision.Proofs.Pattern.Recency
import Mathlib.Data.List.Basic

/-
  A larger cache holds what a smaller one holds

  Two caches of different capacities that are asked the same things drift apart: a
  look-up can miss in the smaller one and bring the key to the front of the larger one,
  and the same offer evicts different keys, or a key from the smaller one only. What
  ties them together is that the smaller one has lost nothing before it was full.

  What is proved:
    1. `sublist_take_take` — without its last place a list that is included in another
       is still included in the other one without its last place.
    2. `included_serve` — a request that both caches serve keeps the one included in
       the other (`Included`), and finds in the larger one what it finds in the smaller.
    3. `larger_cache_keeps_hits` — so do runs from empty caches: the keys of the smaller
       one are keys of the larger one in the same order, and every look-up that
       succeeds in the smaller one succeeds in the larger one.
-/

namespace AccessDecision.PatternCache

/-- A look-up that finds its key. -/
inductive Exchange.Hits : Exchange → Prop where
  | get (key : String) (p : CompiledPattern) : Hits ⟨.get key, .found (some p)⟩
  | contains (key : String) : Hits ⟨.contains key, .present true⟩

/-- The keys of the smaller cache are keys of the larger one, in the same order, and
they are all of them as long as the smaller one has room. -/
structure Included (small large : PatternCache) : Prop where
  capacity_le : small.capacity ≤ large.capacity
  tidy_small : small.Tidy
  tidy_large : large.Tidy
  keys_sublist : small.keys.Sublist large.keys
  keys_eq : small.size < small.capacity → small.keys = large.keys

/-! ## Lists without their last place -/

theorem sublist_take_take {α : Type} {s l : List α} {m n : Nat} (h : s.Sublist l)
    (hs : m < s.length) (hl : l.length ≤ n + 1) : (s.take m).Sublist (l.take n) := by
  rcases Nat.lt_or_ge n l.length with hlong | hshort
  · obtain ⟨front, last, rfl⟩ : ∃ front last, l = front ++ [last] :=
      (List.eq_nil_or_concat' l).resolve_left (List.ne_nil_of_length_pos (Nat.zero_lt_of_lt hlong))
    obtain ⟨s₁, s₂, rfl, hfront, hlast⟩ := List.sublist_append_iff.mp h
    -- Only the place that is left out can have come from the last one.
    have hone : s₂.length ≤ 1 := hlast.length_le
    rw [List.length_append] at hs
    rw [List.length_append, List.length_singleton] at hl hlong
    rw [List.take_append_of_le_length (by omega), List.take_append_of_le_length (by omega),
      List.take_of_length_le (l := front) (by omega)]
    exact (List.take_sublist m s₁).trans hfront
  · rw [List.take_of_length_le hshort]
    exact (List.take_sublist m s).trans h

/-! ## Sizes -/

variable {c small large : PatternCache} {p q : CompiledPattern}

theorem length_keys (c : PatternCache) : c.keys.length = c.size := List.length_map _

theorem size_touch (hc : c.Tidy) (hp : p ∈ c.entries) : (c.touch p).size = c.size := by
  have hmem : p.source ∈ c.keys := List.mem_map_of_mem hp
  have hpos : 0 < c.keys.length := List.length_pos_of_mem hmem
  rw [← length_keys, ← length_keys, keys_touch, ← hc.keys_nodup.erase_eq_filter,
    List.length_cons, List.length_erase_of_mem hmem]
  omega

theorem size_insert (c : PatternCache) (p : CompiledPattern) :
    (c.insert p).size = min c.capacity (c.size + 1) := by
  rw [size, insert, List.length_take, List.length_cons, size]

theorem keys_insert_of_room (h : c.size < c.capacity) :
    (c.insert p).keys = p.source :: c.keys := by
  rw [keys_insert, List.take_of_length_le]
  rw [List.length_cons, length_keys]
  exact h

theorem keys_insert_cons (c : PatternCache) (p : CompiledPattern) :
    (c.insert p).keys = p.source :: c.keys.take (c.capacity - 1) := by
  obtain ⟨n, hn⟩ := Nat.exists_eq_succ_of_ne_zero (Nat.pos_iff_ne_zero.mp c.capacity_pos)
  rw [keys_insert, hn, List.take_succ_cons]
  rfl

/-! ## One request to both -/

namespace Included

theorem not_room (h : Included small large) {key : String} (hsmall : key ∉ small.keys)
    (hlarge : key ∈ large.keys) : small.capacity ≤ small.size := by
  by_contra hroom
  exact hsmall (h.keys_eq (Nat.lt_of_not_le hroom) ▸ hlarge)

/-- The key is found in both. -/
theorem touch_touch (h : Included small large) (hp : p ∈ small.entries) (hq : q ∈ large.entries)
    (hkey : p.source = q.source) : Included (small.touch p) (large.touch q) where
  capacity_le := h.capacity_le
  tidy_small := tidy_touch h.tidy_small hp
  tidy_large := tidy_touch h.tidy_large hq
  keys_sublist := by
    rw [keys_touch, keys_touch, hkey]
    exact (h.keys_sublist.filter _).cons_cons _
  keys_eq := by
    intro hroom
    rw [size_touch h.tidy_small hp] at hroom
    rw [keys_touch, keys_touch, hkey, h.keys_eq hroom]

/-- The keys of the smaller cache stay in order when another key moves to the front of
the larger one. -/
theorem keys_sublist_filter (h : Included small large) {key : String} (hsmall : key ∉ small.keys) :
    small.keys.Sublist (large.keys.filter (· != key)) := by
  have hsub := h.keys_sublist.filter (· != key)
  rwa [filter_ne_of_not_mem hsmall] at hsub

/-- The key is found in the larger cache only. -/
theorem right_touch (h : Included small large) (hq : q ∈ large.entries)
    (hsmall : q.source ∉ small.keys) : Included small (large.touch q) where
  capacity_le := h.capacity_le
  tidy_small := h.tidy_small
  tidy_large := tidy_touch h.tidy_large hq
  keys_sublist := by
    rw [keys_touch]
    exact (h.keys_sublist_filter hsmall).cons _
  keys_eq := fun hroom =>
    absurd hroom (Nat.not_lt.mpr (h.not_room hsmall (List.mem_map_of_mem hq)))

/-- The key is found in the larger cache, and the smaller one takes it in. -/
theorem insert_touch (h : Included small large) (hq : q ∈ large.entries)
    (hkey : p.source = q.source) (htidy : (small.insert p).Tidy) (hsmall : p.source ∉ small.keys) :
    Included (small.insert p) (large.touch q) where
  capacity_le := h.capacity_le
  tidy_small := htidy
  tidy_large := tidy_touch h.tidy_large hq
  keys_sublist := by
    rw [keys_insert_cons, keys_touch, ← hkey]
    exact ((List.take_sublist _ _).trans (h.keys_sublist_filter hsmall)).cons_cons _
  keys_eq := by
    intro hroom
    have hfull := h.not_room hsmall (hkey ▸ List.mem_map_of_mem hq)
    rw [size_insert] at hroom
    exact absurd hroom (by show ¬ _ < small.capacity; omega)

/-- Both caches take the key in. -/
theorem insert_insert (h : Included small large) (hsmall : (small.insert p).Tidy)
    (hlarge : (large.insert p).Tidy) : Included (small.insert p) (large.insert p) := by
  have hle := h.capacity_le
  have heq (hroom : small.size < small.capacity) :
      (small.insert p).keys = (large.insert p).keys := by
    have hkeys := h.keys_eq hroom
    have hsize : large.size = small.size := by rw [← length_keys, ← length_keys, hkeys]
    rw [keys_insert_of_room hroom, keys_insert_of_room (by omega), hkeys]
  refine ⟨hle, hsmall, hlarge, ?_, ?_⟩
  · rcases Nat.lt_or_ge small.size small.capacity with hroom | hfull
    · rw [heq hroom]
    · have hlast := h.tidy_large.size_le
      have hpos := small.capacity_pos
      rw [keys_insert_cons, keys_insert_cons]
      apply List.Sublist.cons_cons
      apply sublist_take_take h.keys_sublist
      · rw [length_keys]
        omega
      · rw [length_keys]
        omega
  · intro hroom
    apply heq
    rw [size_insert] at hroom
    have : min small.capacity (small.size + 1) < small.capacity := hroom
    omega

end Included

theorem peek?_none_of_included (h : Included small large) {key : String}
    (hlarge : large.peek? key = none) : small.peek? key = none :=
  peek?_of_not_mem_keys fun hmem => not_mem_keys_of_peek? hlarge (h.keys_sublist.subset hmem)

/-- A request that both caches serve keeps the one included in the other, and finds in
the larger one what it finds in the smaller one. -/
theorem included_serve (h : Included small large) (r : Request) :
    Included (small.serve r).2 (large.serve r).2 ∧
      (Exchange.Hits ⟨r, (small.serve r).1⟩ → Exchange.Hits ⟨r, (large.serve r).1⟩) := by
  cases r with
  | get key =>
    rw [serve, serve]
    cases hlarge : large.peek? key with
    | none =>
      rw [get?_of_peek?_none hlarge, get?_of_peek?_none (peek?_none_of_included h hlarge)]
      exact ⟨h, id⟩
    | some q =>
      have hq := mem_of_peek? hlarge
      rw [get?_of_peek? hlarge]
      refine ⟨?_, fun _ => .get key q⟩
      cases hsmall : small.peek? key with
      | none =>
        rw [get?_of_peek?_none hsmall]
        exact h.right_touch hq (source_of_peek? hlarge ▸ not_mem_keys_of_peek? hsmall)
      | some p =>
        rw [get?_of_peek? hsmall]
        exact h.touch_touch (mem_of_peek? hsmall) hq
          ((source_of_peek? hsmall).trans (source_of_peek? hlarge).symm)
  | offer p =>
    refine ⟨?_, fun hhits => by cases hhits⟩
    rw [serve, serve]
    have htidy := tidy_getOrInsert h.tidy_small p
    cases hlarge : large.peek? p.source with
    | none =>
      have hsmall := peek?_none_of_included h hlarge
      have htidy' := tidy_getOrInsert h.tidy_large p
      rw [getOrInsert_of_peek?_none hsmall] at htidy ⊢
      rw [getOrInsert_of_peek?_none hlarge] at htidy' ⊢
      exact h.insert_insert htidy htidy'
    | some q =>
      have hq := mem_of_peek? hlarge
      have hsource := source_of_peek? hlarge
      rw [getOrInsert_of_peek? hlarge]
      cases hsmall : small.peek? p.source with
      | none =>
        rw [getOrInsert_of_peek?_none hsmall] at htidy ⊢
        exact h.insert_touch hq hsource.symm htidy (not_mem_keys_of_peek? hsmall)
      | some stored =>
        rw [getOrInsert_of_peek? hsmall]
        exact h.touch_touch (mem_of_peek? hsmall) hq ((source_of_peek? hsmall).trans hsource.symm)
  | contains key =>
    refine ⟨h, fun hhits => ?_⟩
    rw [serve, contains_eq] at hhits ⊢
    have hsmall : key ∈ small.keys := by
      by_contra hmem
      rw [decide_eq_false hmem] at hhits
      cases hhits
    rw [decide_eq_true (h.keys_sublist.subset hsmall)]
    exact .contains key
  | size => exact ⟨h, fun hhits => by cases hhits⟩
  | clear =>
    exact ⟨⟨h.capacity_le, tidy_clear small, tidy_clear large, List.Sublist.refl _, fun _ => rfl⟩,
      fun hhits => by cases hhits⟩

/-! ## Runs -/

/-- The same request, answered by a hit if the other one is. -/
structure Exchange.KeepsHit (e e' : Exchange) : Prop where
  request_eq : e'.request = e.request
  hits : e.Hits → e'.Hits

theorem included_foldl {log log' : List Exchange} (h : Included small large)
    (hlog : List.Forall₂ Exchange.KeepsHit log log') (requests : List Request) :
    Included (requests.foldl record (log, small)).2 (requests.foldl record (log', large)).2 ∧
      List.Forall₂ Exchange.KeepsHit (requests.foldl record (log, small)).1
        (requests.foldl record (log', large)).1 := by
  induction requests generalizing small large log log' with
  | nil => exact ⟨h, hlog⟩
  | cons r requests ih =>
    obtain ⟨hserve, hhits⟩ := included_serve h r
    exact ih hserve (.cons ⟨rfl, hhits⟩ hlog)

/-- After the same requests to two empty caches the keys of the smaller one are keys of
the larger one, in the same order of recency, and every look-up on the way that found
its key in the smaller one found it in the larger one. -/
theorem larger_cache_keeps_hits {small large : Nat} (hpos : 0 < small) (hle : small ≤ large)
    (requests : List Request) :
    let ran := run (empty small hpos) requests
    let ran' := run (empty large (Nat.lt_of_lt_of_le hpos hle)) requests
    ran.2.keys.Sublist ran'.2.keys ∧ List.Forall₂ Exchange.KeepsHit ran.1 ran'.1 := by
  intro ran ran'
  have hempty : Included (empty small hpos) (empty large (Nat.lt_of_lt_of_le hpos hle)) :=
    ⟨hle, tidy_empty _ _, tidy_empty _ _, List.Sublist.refl _, fun _ => rfl⟩
  obtain ⟨hincluded, hlogs⟩ := included_foldl hempty .nil requests
  exact ⟨hincluded.keys_sublist, hlogs⟩

/-- A look-up of `a*` misses where there is room for one pattern and hits where there is
room for two, and the offer of `c*` evicts `b*` from both. -/
theorem wider_cache_hits :
    let pattern (source : String) : CompiledPattern := ⟨source, "", .empty, ⟨1⟩⟩
    let requests : List Request :=
      [.offer (pattern "a*"), .offer (pattern "b*"), .get "a*", .offer (pattern "c*")]
    0 < 1 ∧ 1 ≤ 2 ∧ ∃ h h', (run (empty 1 h) requests).2.keys = ["c*"] ∧
      (run (empty 2 h') requests).2.keys = ["c*", "a*"] ∧
      List.Forall₂ Exchange.KeepsHit (run (empty 1 h) requests).1
        (run (empty 2 h') requests).1 := by
  intro pattern requests
  refine ⟨by decide, by decide, by decide, by decide, by decide, by decide, ?_⟩
  exact (larger_cache_keeps_hits (by decide) (by decide) requests).2

end AccessDecision.PatternCache
