import AccessDecision.Proofs.Pattern.Cache

/-
  What a cache holds after a run of requests

  A run is seen from outside as its log: every request with the reply it got,
  latest first. A key is touched by each offer of it and by each look-up that
  finds it. `recent` reads off a log which keys the cache has to hold, and
  `FirstOffered` which pattern it has to hold under a key, both without looking
  into the cache.

  What is proved:
    1. `follows_serve` and `follows_run` — serving a request keeps the cache in
       line with its log (`Follows`), and so does every run from an empty cache.
    2. `run_holds_recent` — so after a run the cache holds exactly the keys that
       were touched most recently since it was last cleared, in that order and
       within its capacity, and answers under each of them with the pattern whose
       offer brought the key in.
-/

namespace AccessDecision.PatternCache

/-! ## Requests and logs -/

/-- What can be asked of a cache. -/
inductive Request where
  | get (key : String)
  | offer (p : CompiledPattern)
  | contains (key : String)
  | size
  | clear

/-- What a cache replies. -/
inductive Reply where
  | found (r : Option CompiledPattern)
  | stored (p : CompiledPattern)
  | present (b : Bool)
  | count (n : Nat)
  | cleared

/-- A request with its reply. -/
structure Exchange where
  request : Request
  reply : Reply

/-- The reply to a request and the cache after it. -/
def serve (c : PatternCache) : Request → Reply × PatternCache
  | .get key => (c.get? key).map .found id
  | .offer p => (c.getOrInsert p).map .stored id
  | .contains key => (.present (c.contains key), c)
  | .size => (.count c.size, c)
  | .clear => (.cleared, c.clear)

/-- Serves a request and puts it into the log. -/
def record (h : List Exchange × PatternCache) (r : Request) : List Exchange × PatternCache :=
  (⟨r, (h.2.serve r).1⟩ :: h.1, (h.2.serve r).2)

/-- The log of some requests, latest first, and the cache after them. -/
def run (c : PatternCache) (requests : List Request) : List Exchange × PatternCache :=
  requests.foldl record ([], c)

/-! ## What a log says -/

/-- The key that an exchange touches. -/
def Exchange.touched? : Exchange → Option String
  | ⟨.get key, .found (some _)⟩ => some key
  | ⟨.offer p, _⟩ => some p.source
  | _ => none

/-- The keys touched since the cache was last cleared, latest first, each as often
as it was touched. -/
def touched : List Exchange → List String
  | [] => []
  | ⟨.clear, _⟩ :: _ => []
  | e :: earlier => e.touched?.toList ++ touched earlier

/-- The keys touched most recently since the cache was last cleared, as many as
there is room for. -/
def recent (capacity : Nat) (log : List Exchange) : List String :=
  (touched log).eraseDups.take capacity

/-- The pattern was offered when its key was not among the recent ones, and the key
has been among them ever since. -/
def FirstOffered (capacity : Nat) (log : List Exchange) (key : String) (p : CompiledPattern) :
    Prop :=
  ∃ since reply before, log = since ++ ⟨.offer p, reply⟩ :: before ∧ p.source = key ∧
    key ∉ recent capacity before ∧
    ∀ later, later <:+ since → key ∈ recent capacity (later ++ ⟨.offer p, reply⟩ :: before)

/-! ## Lists without their repetitions -/

section
variable {α : Type} [BEq α] [LawfulBEq α]

theorem eraseDups_filter (p : α → Bool) (l : List α) :
    (l.filter p).eraseDups = l.eraseDups.filter p := by
  induction h : l.length using Nat.strongRecOn generalizing l with
  | ind n ih =>
    cases l with
    | nil => rfl
    | cons a l =>
      have hshorter : (l.filter fun b => !b == a).length < n := by
        have := List.length_filter_le (fun b => !b == a) l
        rw [List.length_cons] at h
        omega
      have htail := ih _ hshorter (l.filter fun b => !b == a) rfl
      rw [List.eraseDups_cons, List.filter_cons, List.filter_cons, ← htail]
      split
      · rw [List.eraseDups_cons, List.filter_filter, List.filter_filter]
        simp only [Bool.and_comm]
      · -- The head is filtered out, and so are all its repetitions.
        rename_i hp
        congr 1
        rw [List.filter_filter]
        refine List.filter_congr fun b _ => ?_
        by_cases hb : b == a
        · simp [eq_of_beq hb, hp]
        · simp [hb]

/-- Behind the first of the list its repetitions are left out. -/
theorem eraseDups_cons_filter (a : α) (l : List α) :
    (a :: l).eraseDups = a :: l.eraseDups.filter (· != a) := by
  rw [List.eraseDups_cons, eraseDups_filter]
  rfl

theorem nodup_eraseDups (l : List α) : l.eraseDups.Nodup := by
  induction l with
  | nil => exact List.nodup_nil
  | cons a l ih =>
    rw [eraseDups_cons_filter, List.nodup_cons]
    exact ⟨by simp, ih.filter _⟩

theorem filter_ne_of_not_mem {a : α} {l : List α} (h : a ∉ l) : l.filter (· != a) = l := by
  rw [List.filter_eq_self]
  intro b hb
  exact bne_iff_ne.mpr fun heq => h (heq ▸ hb)

theorem take_filter_ne_of_mem {a : α} {l : List α} {n : Nat} (hl : l.Nodup)
    (h : a ∈ l.take (n + 1)) :
    (l.filter (· != a)).take n = (l.take (n + 1)).filter (· != a) := by
  induction l generalizing n with
  | nil => cases h
  | cons b l ih =>
    rw [List.nodup_cons] at hl
    rw [List.take_succ_cons] at h ⊢
    by_cases hb : b = a
    · subst hb
      have htake : b ∉ l.take n := fun hmem => hl.1 (List.mem_of_mem_take hmem)
      rw [List.filter_cons_of_neg (by simp), List.filter_cons_of_neg (by simp),
        filter_ne_of_not_mem hl.1, filter_ne_of_not_mem htake]
    · have hmem : a ∈ l.take n := (List.mem_cons.mp h).resolve_left (Ne.symm hb)
      rw [List.filter_cons_of_pos (by simpa using hb), List.filter_cons_of_pos (by simpa using hb)]
      cases n with
      | zero => cases hmem
      | succ n => rw [List.take_succ_cons, ih hl.2 hmem]

theorem take_filter_ne_of_not_mem {a : α} {l : List α} {n : Nat} (h : a ∉ l.take n) :
    (l.filter (· != a)).take n = l.take n := by
  induction l generalizing n with
  | nil => rfl
  | cons b l ih =>
    cases n with
    | zero => rfl
    | succ n =>
      rw [List.take_succ_cons, List.mem_cons, not_or] at h
      rw [List.filter_cons_of_pos (by simpa using Ne.symm h.1), List.take_succ_cons,
        List.take_succ_cons, ih h.2]

/-- One that is among the first `n` comes to the front of them. -/
theorem take_eraseDups_of_mem {a : α} {l : List α} {n : Nat} (h : a ∈ l.eraseDups.take n) :
    (a :: l).eraseDups.take n = a :: (l.eraseDups.take n).filter (· != a) := by
  cases n with
  | zero => cases h
  | succ n =>
    rw [eraseDups_cons_filter, List.take_succ_cons, take_filter_ne_of_mem (nodup_eraseDups l) h]

/-- One that is not among the first `n` takes the place of the last of them. -/
theorem take_eraseDups_of_not_mem {a : α} {l : List α} {n : Nat} (h : a ∉ l.eraseDups.take n) :
    (a :: l).eraseDups.take n = (a :: l.eraseDups.take n).take n := by
  cases n with
  | zero => rfl
  | succ n =>
    have hshort : a ∉ l.eraseDups.take n := fun hmem =>
      h (List.take_subset_take_left _ (Nat.le_succ n) hmem)
    rw [eraseDups_cons_filter, List.take_succ_cons, List.take_succ_cons,
      take_filter_ne_of_not_mem hshort, List.take_take, Nat.min_eq_left (Nat.le_succ n)]

end

/-! ## Keys and patterns after one request -/

variable {c : PatternCache} {capacity : Nat} {log : List Exchange} {key : String}
  {p : CompiledPattern}

theorem peek?_isSome_iff : (c.peek? key).isSome = true ↔ key ∈ c.keys := by
  cases h : c.peek? key with
  | none => simpa using not_mem_keys_of_peek? h
  | some p =>
    have hkey : key ∈ c.keys := List.mem_map.mpr ⟨p, mem_of_peek? h, source_of_peek? h⟩
    simpa using hkey

theorem contains_eq (c : PatternCache) (key : String) :
    c.contains key = decide (key ∈ c.keys) := by
  rw [contains, Bool.eq_iff_iff, peek?_isSome_iff, decide_eq_true_iff]

theorem peek?_of_not_mem_keys (h : key ∉ c.keys) : c.peek? key = none := by
  rw [← peek?_isSome_iff] at h
  simpa using h

theorem keys_insert (c : PatternCache) (p : CompiledPattern) :
    (c.insert p).keys = (p.source :: c.keys).take c.capacity := by
  rw [keys, keys, insert, List.map_take, List.map_cons]

/-- The exchange goes on with a key that is among the recent ones. -/
theorem FirstOffered.extend {e : Exchange} (h : FirstOffered capacity log key p)
    (hkey : key ∈ recent capacity (e :: log)) : FirstOffered capacity (e :: log) key p := by
  obtain ⟨since, reply, before, rfl, hsource, haway, hkept⟩ := h
  refine ⟨e :: since, reply, before, rfl, hsource, haway, ?_⟩
  intro later hlater
  rcases List.suffix_cons_iff.mp hlater with rfl | hlater
  · exact hkey
  · exact hkept later hlater

theorem firstOffered_offer {reply : Reply} (haway : p.source ∉ recent capacity log)
    (hkey : p.source ∈ recent capacity (⟨.offer p, reply⟩ :: log)) :
    FirstOffered capacity (⟨.offer p, reply⟩ :: log) p.source p := by
  refine ⟨[], reply, log, rfl, rfl, haway, ?_⟩
  intro later hlater
  obtain rfl := List.suffix_nil.mp hlater
  exact hkey

/-- A cache is in line with its log. -/
structure Follows (capacity : Nat) (log : List Exchange) (c : PatternCache) : Prop where
  capacity_eq : c.capacity = capacity
  keys_eq : c.keys = recent capacity log
  first_offered : ∀ p ∈ c.entries, FirstOffered capacity log p.source p

theorem follows_empty (capacity : Nat) (h : 0 < capacity) :
    Follows capacity [] (empty capacity h) :=
  ⟨rfl, List.take_nil.symm, fun _ hp => nomatch hp⟩

/-- A cache whose patterns were all there before, and whose keys are right, is in
line with the longer log. -/
theorem Follows.keep {c' : PatternCache} {e : Exchange} (h : Follows capacity log c)
    (hcapacity : c'.capacity = c.capacity) (hentries : c'.entries ⊆ c.entries)
    (hkeys : c'.keys = recent capacity (e :: log)) : Follows capacity (e :: log) c' := by
  refine ⟨hcapacity.trans h.capacity_eq, hkeys, ?_⟩
  intro p hp
  have hkey : p.source ∈ c'.keys := List.mem_map_of_mem hp
  exact (h.first_offered p (hentries hp)).extend (hkeys ▸ hkey)

theorem Follows.touch {e : Exchange} (h : Follows capacity log c) (hp : p ∈ c.entries)
    (htouched : touched (e :: log) = p.source :: touched log) :
    Follows capacity (e :: log) (c.touch p) := by
  have hkey : p.source ∈ recent capacity log := h.keys_eq ▸ List.mem_map_of_mem hp
  refine h.keep rfl (fun _ hq => mem_of_mem_touch hp hq) ?_
  rw [keys_touch, h.keys_eq, recent, recent, htouched, take_eraseDups_of_mem hkey]

theorem Follows.insert {reply : Reply} (h : Follows capacity log c) (haway : p.source ∉ c.keys) :
    Follows capacity (⟨.offer p, reply⟩ :: log) (c.insert p) := by
  have hkeys : (c.insert p).keys = recent capacity (⟨.offer p, reply⟩ :: log) := by
    rw [h.keys_eq] at haway
    rw [keys_insert, h.keys_eq, h.capacity_eq]
    exact (take_eraseDups_of_not_mem haway).symm
  refine ⟨h.capacity_eq, hkeys, ?_⟩
  intro q hq
  have hkey : q.source ∈ recent capacity (⟨.offer p, reply⟩ :: log) :=
    hkeys ▸ List.mem_map_of_mem hq
  rcases List.mem_cons.mp (List.mem_of_mem_take hq) with rfl | hmem
  · exact firstOffered_offer (h.keys_eq ▸ haway) hkey
  · exact (h.first_offered q hmem).extend hkey

/-! ## Runs -/

/-- Serving a request keeps a cache in line with its log. -/
theorem follows_serve (h : Follows capacity log c) (r : Request) :
    Follows capacity (⟨r, (c.serve r).1⟩ :: log) (c.serve r).2 := by
  cases r with
  | get key =>
    rw [serve]
    cases hpeek : c.peek? key with
    | none =>
      rw [get?_of_peek?_none hpeek]
      exact h.keep rfl (List.Subset.refl _) h.keys_eq
    | some p =>
      rw [get?_of_peek? hpeek]
      refine h.touch (mem_of_peek? hpeek) ?_
      rw [source_of_peek? hpeek]
      rfl
  | offer p =>
    rw [serve]
    cases hpeek : c.peek? p.source with
    | none =>
      rw [getOrInsert_of_peek?_none hpeek]
      exact h.insert (not_mem_keys_of_peek? hpeek)
    | some stored =>
      rw [getOrInsert_of_peek? hpeek]
      refine h.touch (mem_of_peek? hpeek) ?_
      rw [source_of_peek? hpeek]
      rfl
  | contains key => exact h.keep rfl (List.Subset.refl _) h.keys_eq
  | size => exact h.keep rfl (List.Subset.refl _) h.keys_eq
  | clear => exact h.keep rfl (List.nil_subset _) List.take_nil.symm

theorem follows_run {h : 0 < capacity} (requests : List Request) :
    Follows capacity (run (empty capacity h) requests).1 (run (empty capacity h) requests).2 := by
  have hfold : ∀ start : List Exchange × PatternCache, Follows capacity start.1 start.2 →
      Follows capacity (requests.foldl record start).1 (requests.foldl record start).2 := by
    induction requests with
    | nil => exact fun _ hstart => hstart
    | cons r requests ih => exact fun start hstart => ih _ (follows_serve hstart r)
  exact hfold ([], empty capacity h) (follows_empty capacity h)

/-- After any requests to an empty cache it holds the keys touched most recently
since it was last cleared, in that order. Asking whether a key is there, or for one
that is not, changes nothing, and a key that is there is answered with the pattern
that was offered when it was last away. -/
theorem run_holds_recent (capacity : Nat) (h : 0 < capacity) (requests : List Request) :
    let log := (run (empty capacity h) requests).1
    let c := (run (empty capacity h) requests).2
    c.keys = recent capacity log ∧
    c.serve .size = (.count (recent capacity log).length, c) ∧
    (∀ key, c.serve (.contains key) = (.present (decide (key ∈ recent capacity log)), c)) ∧
    (∀ key ∉ recent capacity log, c.serve (.get key) = (.found none, c) ∧
      ∀ q : CompiledPattern, q.source = key → (c.serve (.offer q)).1 = .stored q) ∧
    ∀ key ∈ recent capacity log, ∃ p, FirstOffered capacity log key p ∧
      c.peek? key = some p ∧ (c.serve (.get key)).1 = .found (some p) ∧
      ∀ q : CompiledPattern, q.source = key → (c.serve (.offer q)).1 = .stored p := by
  intro log c
  have hfollows : Follows capacity log c := follows_run requests
  refine ⟨hfollows.keys_eq, ?_, ?_, ?_, ?_⟩
  · rw [← hfollows.keys_eq, keys, List.length_map]
    rfl
  · intro key
    rw [← hfollows.keys_eq, serve, contains_eq]
  · intro key hkey
    rw [← hfollows.keys_eq] at hkey
    have hpeek := peek?_of_not_mem_keys hkey
    refine ⟨?_, ?_⟩
    · rw [serve, get?_of_peek?_none hpeek]
      rfl
    · rintro q rfl
      rw [serve, getOrInsert_of_peek?_none hpeek]
      rfl
  · intro key hkey
    rw [← hfollows.keys_eq, ← peek?_isSome_iff, Option.isSome_iff_exists] at hkey
    obtain ⟨p, hpeek⟩ := hkey
    have hfirst := hfollows.first_offered p (mem_of_peek? hpeek)
    rw [source_of_peek? hpeek] at hfirst
    refine ⟨p, hfirst, hpeek, ?_, ?_⟩
    · rw [serve, get?_of_peek? hpeek]
      rfl
    · rintro q rfl
      rw [serve, getOrInsert_of_peek? hpeek]
      rfl

/-- A look-up keeps `a*` while the older `b*` makes room, and a later offer with
another budget is answered with the pattern that came first. -/
theorem used_key_stays :
    let pattern (source : String) (nanos : Nat) : CompiledPattern := ⟨source, "", .empty, ⟨nanos⟩⟩
    let requests : List Request := [.offer (pattern "a*" 1), .offer (pattern "b*" 1), .get "a*",
      .offer (pattern "c*" 1), .offer (pattern "a*" 2)]
    ∃ h : 0 < 2, (run (empty 2 h) requests).2.keys = ["a*", "c*"] ∧
      ∀ n, ((run (empty 2 h) requests).2.serve (.offer (pattern "a*" n))).1 =
        .stored (pattern "a*" 1) := by
  intro pattern requests
  obtain ⟨hkeys, -, -, -, hheld⟩ := run_holds_recent 2 (by decide) requests
  have hrecent : recent 2 (run (empty 2 (by decide)) requests).1 = ["a*", "c*"] := by decide
  refine ⟨by decide, hkeys.trans hrecent, ?_⟩
  intro n
  obtain ⟨p, -, hpeek, -, hoffer⟩ := hheld "a*" (hrecent ▸ List.mem_cons_self)
  obtain rfl : pattern "a*" 1 = p := Option.some.inj hpeek
  exact hoffer (pattern "a*" n) rfl

end AccessDecision.PatternCache
