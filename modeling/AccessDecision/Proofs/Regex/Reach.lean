import AccessDecision.Regex.Search

/-
  A search finds what an expression spans

  `Expr.reach` moves ascending lists of positions through an expression, and
  `Spans` says piece by piece what the expression matches. This module ties the
  two together.

  What is proved:
    1. `follows_reach` — from the given starts, `reach` finds exactly the ends of
       the pieces that the expression spans.
    2. `isMatch_iff` — so a text is matched exactly if the expression spans some
       piece of it.

  Both need the counts of every repetition to be in order (`Expr.Counted`): a
  repetition of at least two and at most one spans nothing, but `reach` would
  find its two rounds.
-/

namespace AccessDecision.Regex

/-- Exactly `n` steps of a relation lead from one position to the other. -/
def Steps (R : Nat → Nat → Prop) : Nat → Nat → Nat → Prop
  | 0, i, j => i = j
  | n + 1, i, k => ∃ j, R i j ∧ Steps R n j k

/-! ## What an expression spans, by its form -/

section
variable {text : Array Char} {i j : Nat}

theorem spans_empty : Spans text .empty i j ↔ i = j := by
  constructor
  · intro h
    cases h
    rfl
  · intro h
    subst h
    exact .empty i

theorem spans_one {set : CharSet} :
    Spans text (.one set) i j ↔ (∃ c, text[i]? = some c ∧ set.contains c = true) ∧ j = i + 1 := by
  constructor
  · intro h
    cases h with
    | one hc hs => exact ⟨⟨_, hc, hs⟩, rfl⟩
  · intro h
    obtain ⟨⟨c, hc, hs⟩, rfl⟩ := h
    exact .one hc hs

theorem spans_look {l : Look} : Spans text (.look l) i j ↔ l.holdsAt text i = true ∧ i = j := by
  constructor
  · intro h
    cases h with
    | look hl => exact ⟨hl, rfl⟩
  · intro h
    obtain ⟨hl, rfl⟩ := h
    exact .look hl

theorem spans_group {captures : Bool} {e : Expr} :
    Spans text (.group captures e) i j ↔ Spans text e i j := by
  constructor
  · intro h
    cases h with
    | group h => exact h
  · exact .group

theorem spans_seq {a b : Expr} {k : Nat} :
    Spans text (.seq a b) i k ↔ ∃ j, Spans text a i j ∧ Spans text b j k := by
  constructor
  · intro h
    cases h with
    | seq ha hb => exact ⟨_, ha, hb⟩
  · intro h
    obtain ⟨j, ha, hb⟩ := h
    exact .seq ha hb

theorem spans_alt {a b : Expr} :
    Spans text (.alt a b) i j ↔ Spans text a i j ∨ Spans text b i j := by
  constructor
  · intro h
    cases h with
    | altLeft h => exact .inl h
    | altRight h => exact .inr h
  · intro h
    rcases h with h | h
    · exact .altLeft h
    · exact .altRight h

/-- A repetition spans what a number of rounds within its counts spans. -/
theorem spans_times {e : Expr} {min : Nat} {max : Option Nat} :
    Spans text (.times e min max) i j ↔
      ∃ n, min ≤ n ∧ (∀ m, max = some m → n ≤ m) ∧ Steps (Spans text e) n i j := by
  constructor
  · intro h
    generalize he : Expr.times e min max = t at h
    induction h generalizing min max with
    | timesDone i =>
      cases he
      exact ⟨0, Nat.le_refl 0, fun m _ => Nat.zero_le m, rfl⟩
    | timesMore hmax h _ _ ih =>
      cases he
      obtain ⟨n, hmin, hn, hsteps⟩ := ih rfl
      refine ⟨n + 1, by omega, ?_, ⟨_, h, hsteps⟩⟩
      intro m hm
      subst hm
      have hpos : m ≠ 0 := fun h0 => hmax (by rw [h0])
      have := hn (m - 1) rfl
      omega
    | _ => cases he
  · intro h
    obtain ⟨n, hmin, hn, hsteps⟩ := h
    induction n generalizing i min max with
    | zero =>
      obtain rfl : i = j := hsteps
      obtain rfl : min = 0 := Nat.le_zero.mp hmin
      exact .timesDone i
    | succ n ih =>
      obtain ⟨k, h, hsteps⟩ := hsteps
      refine .timesMore (fun h0 => ?_) h (ih (by omega) (fun m hm => ?_) hsteps)
      · have := hn 0 h0
        omega
      · obtain ⟨m', rfl, rfl⟩ := Option.map_eq_some_iff.mp hm
        have := hn m' rfl
        omega

end

/-! ## What a position asserts and what one character spans -/

theorem spans_seqs_cons {text : Array Char} {e : Expr} {es : List Expr} {i k : Nat} :
    Spans text (.seqs (e :: es)) i k ↔ ∃ j, Spans text e i j ∧ Spans text (.seqs es) j k := by
  cases es with
  | nil => simp [Expr.seqs, spans_empty]
  | cons e' es => simp [Expr.seqs, spans_seq]

section
variable {cs : List Char} {i j : Nat}

theorem spans_textStart :
    Spans cs.toArray (.look .textStart) i j ↔ (i = 0 ∨ cs.length < i) ∧ i = j := by
  rw [spans_look]
  cases i with
  | zero => simp [Look.holdsAt, Look.holds, Look.before]
  | succ i =>
    show (cs.toArray[i]?).isNone = true ∧ i + 1 = j ↔ _
    rw [Option.isNone_iff_eq_none, Array.getElem?_eq_none_iff, List.size_toArray]
    omega

theorem spans_textEnd : Spans cs.toArray (.look .textEnd) i j ↔ cs.length ≤ i ∧ i = j := by
  rw [spans_look]
  simp [Look.holdsAt, Look.holds]

theorem contains_single {c d : Char} : (CharSet.single c).contains d = true ↔ d = c := by
  simp only [CharSet.single, CharSet.contains, Bool.and_eq_true, decide_eq_true_eq]
  constructor
  · intro h
    obtain ⟨hcd, hdc⟩ := h
    exact Char.le_antisymm hdc hcd
  · intro h
    subst h
    exact ⟨Char.le_refl d, Char.le_refl d⟩

theorem spans_single {c : Char} :
    Spans cs.toArray (.one (.single c)) i j ↔ cs[i]? = some c ∧ j = i + 1 := by
  rw [spans_one, List.getElem?_toArray]
  constructor
  · intro h
    obtain ⟨⟨d, hd, hc⟩, rfl⟩ := h
    exact ⟨contains_single.mp hc ▸ hd, rfl⟩
  · intro h
    obtain ⟨hc, rfl⟩ := h
    exact ⟨⟨c, hc, contains_single.mpr rfl⟩, rfl⟩

/-- A row of single characters spans itself. -/
theorem spans_singles {row : List Char} {es : List Expr} :
    Spans cs.toArray (.seqs (row.map (fun c => .one (.single c)) ++ es)) i j ↔
      row <+: cs.drop i ∧ Spans cs.toArray (.seqs es) (i + row.length) j := by
  induction row generalizing i with
  | nil => simp
  | cons c row ih =>
    have hcons : c :: row <+: cs.drop i ↔ cs[i]? = some c ∧ row <+: cs.drop (i + 1) := by
      rw [← List.head?_drop, ← List.tail_drop]
      cases cs.drop i with
      | nil => simp
      | cons d rest =>
        rw [List.cons_prefix_cons]
        simp [eq_comm]
    have hlength : i + (c :: row).length = i + 1 + row.length := by
      rw [List.length_cons, Nat.add_right_comm, Nat.add_assoc]
    rw [List.map_cons, List.cons_append, spans_seqs_cons, hcons, hlength]
    simp only [spans_single]
    constructor
    · intro h
      obtain ⟨_, ⟨hc, rfl⟩, hrest⟩ := h
      obtain ⟨hrow, hspans⟩ := ih.mp hrest
      exact ⟨⟨hc, hrow⟩, hspans⟩
    · intro h
      obtain ⟨⟨hc, hrow⟩, hspans⟩ := h
      exact ⟨_, ⟨hc, rfl⟩, ih.mpr ⟨hrow, hspans⟩⟩

end

/-- A span runs forward and stays inside the text. -/
theorem Spans.bounds {text : Array Char} {e : Expr} {i j : Nat} (h : Spans text e i j) :
    i ≤ j ∧ (i ≤ text.size → j ≤ text.size) := by
  induction h with
  | empty i => exact ⟨Nat.le_refl i, id⟩
  | @one set i c hc _ =>
    have := (Array.getElem?_eq_some_iff.mp hc).1
    omega
  | look _ => exact ⟨Nat.le_refl _, id⟩
  | group _ ih => exact ih
  | seq _ _ iha ihb => omega
  | altLeft _ ih => exact ih
  | altRight _ ih => exact ih
  | timesDone i => exact ⟨Nat.le_refl i, id⟩
  | timesMore _ _ _ iha ihb => omega

/-! ## Unions of positions -/

/-- Positions in strictly ascending order. -/
abbrev Ascending (is : List Nat) : Prop := is.Pairwise (· < ·)

namespace Positions

theorem mem_unionCons {i j : Nat} {is : List Nat} {rest : List Nat → List Nat}
    (hrest : ∀ js, j ∈ rest js ↔ j ∈ is ∨ j ∈ js) (js : List Nat) :
    j ∈ unionCons i rest js ↔ j = i ∨ j ∈ is ∨ j ∈ js := by
  induction js with
  | nil => simp [unionCons, hrest]
  | cons k ks ih =>
    simp only [unionCons]
    split
    · simp only [List.mem_cons, ih]
      grind
    · split
      · simp only [List.mem_cons, hrest]
        grind
      · simp [hrest]

theorem mem_union {j : Nat} (is js : List Nat) : j ∈ union is js ↔ j ∈ is ∨ j ∈ js := by
  induction is generalizing js with
  | nil => simp [union]
  | cons i is ih =>
    cases js with
    | nil => simp [union]
    | cons k ks => simpa [union, or_assoc] using mem_unionCons ih (k :: ks)

theorem ascending_unionCons {i : Nat} {is : List Nat} (h : Ascending (i :: is))
    (ih : ∀ {js}, Ascending js → Ascending (union is js)) {js : List Nat} (hjs : Ascending js) :
    Ascending (unionCons i (union is) js) := by
  have hi := (List.pairwise_cons.mp h).1
  induction js with
  | nil =>
    refine List.pairwise_cons.mpr ⟨fun j hj => ?_, ih .nil⟩
    rcases (mem_union is []).mp hj with hj | hj
    · exact hi j hj
    · cases hj
  | cons k ks ihk =>
    have hk := List.pairwise_cons.mp hjs
    simp only [unionCons]
    split
    · rename_i hlt
      refine List.pairwise_cons.mpr ⟨fun j hj => ?_, ihk hk.2⟩
      rcases (mem_unionCons (fun js => mem_union is js) ks).mp hj with rfl | hj | hj
      · exact hlt
      · exact Nat.lt_trans hlt (hi j hj)
      · exact hk.1 j hj
    · split
      · rename_i heq
        refine List.pairwise_cons.mpr ⟨fun j hj => ?_, ih hk.2⟩
        rcases (mem_union is ks).mp hj with hj | hj
        · exact hi j hj
        · exact heq ▸ hk.1 j hj
      · refine List.pairwise_cons.mpr ⟨fun j hj => ?_, ih hjs⟩
        rcases (mem_union is _).mp hj with hj | hj
        · exact hi j hj
        · rcases List.mem_cons.mp hj with rfl | hj
          · omega
          · have := hk.1 j hj
            omega

theorem ascending_union {is js : List Nat} (his : Ascending is) (hjs : Ascending js) :
    Ascending (union is js) := by
  induction is generalizing js with
  | nil => simpa [union] using hjs
  | cons i is ih =>
    cases js with
    | nil => simpa [union] using his
    | cons k ks =>
      simpa [union] using ascending_unionCons his (ih (List.pairwise_cons.mp his).2) hjs

end Positions

/-! ## Moves that follow a relation -/

/-- A move of positions in a text of the given size finds exactly where a relation
leads that runs forward and stays inside the text. -/
structure Follows (size : Nat) (move : List Nat → List Nat) (R : Nat → Nat → Prop) : Prop where
  ascending : ∀ {is}, Ascending is → Ascending (move is)
  mem : ∀ {is}, Ascending is → (∀ i ∈ is, i ≤ size) → ∀ j, j ∈ move is ↔ ∃ i ∈ is, R i j
  bounds : ∀ {i j}, R i j → i ≤ j ∧ (i ≤ size → j ≤ size)

namespace Follows

variable {size : Nat} {move next : List Nat → List Nat} {R S : Nat → Nat → Prop}

theorem congr (h : Follows size move R) (hRS : ∀ i j, R i j ↔ S i j) : Follows size move S := by
  have : R = S := funext fun i => funext fun j => propext (hRS i j)
  exact this ▸ h

theorem within (h : Follows size move R) {is : List Nat} (his : Ascending is)
    (hle : ∀ i ∈ is, i ≤ size) : ∀ j ∈ move is, j ≤ size := by
  intro j hj
  obtain ⟨i, hi, hR⟩ := (h.mem his hle j).mp hj
  exact (h.bounds hR).2 (hle i hi)

theorem comp (h : Follows size move R) (h' : Follows size next S) :
    Follows size (fun is => next (move is)) (fun i k => ∃ j, R i j ∧ S j k) where
  ascending his := h'.ascending (h.ascending his)
  mem his hle k := by
    rw [h'.mem (h.ascending his) (h.within his hle)]
    constructor
    · intro h
      obtain ⟨j, hj, hS⟩ := h
      obtain ⟨i, hi, hR⟩ := (h.mem his hle j).mp hj
      exact ⟨i, hi, j, hR, hS⟩
    · intro h
      obtain ⟨i, hi, j, hR, hS⟩ := h
      exact ⟨j, (h.mem his hle j).mpr ⟨i, hi, hR⟩, hS⟩
  bounds := by
    intro i k h
    obtain ⟨j, hR, hS⟩ := h
    have := h.bounds hR
    have := h'.bounds hS
    omega

theorem union (h : Follows size move R) (h' : Follows size next S) :
    Follows size (fun is => Positions.union (move is) (next is)) (fun i j => R i j ∨ S i j) where
  ascending his := Positions.ascending_union (h.ascending his) (h'.ascending his)
  mem his hle j := by
    rw [Positions.mem_union, h.mem his hle, h'.mem his hle]
    grind
  bounds := by
    intro i j h
    rcases h with hR | hS
    · exact h.bounds hR
    · exact h'.bounds hS

/-- Positions that stay where they are. -/
theorem filter (p : Nat → Bool) :
    Follows size (fun is => is.filter p) (fun i j => p i = true ∧ i = j) where
  ascending his := his.filter p
  mem _ _ j := by
    rw [List.mem_filter]
    grind
  bounds := by
    intro i j h
    obtain ⟨_, rfl⟩ := h
    exact ⟨Nat.le_refl i, id⟩

theorem refl : Follows size (fun is => is) (fun i j => i = j) where
  ascending his := his
  mem _ _ j := by simp
  bounds := by
    intro i j h
    subst h
    exact ⟨Nat.le_refl i, id⟩

/-- Nothing moves from nowhere. -/
theorem nil (h : Follows size move R) : move [] = [] := by
  refine List.eq_nil_iff_forall_not_mem.mpr fun j hj => ?_
  obtain ⟨i, hi, _⟩ := (h.mem .nil (fun i hi => absurd hi List.not_mem_nil) j).mp hj
  cases hi

theorem iterate (h : Follows size move R) (n : Nat) :
    Follows size (Positions.iterate move n) (Steps R n) := by
  induction n with
  | zero => exact refl
  | succ n ih =>
    -- `iterate` stops early on no positions, which makes no difference.
    have heq : Positions.iterate move (n + 1) = fun is => Positions.iterate move n (move is) := by
      funext is
      cases is with
      | nil => simp [Positions.iterate, h.nil, ih.nil]
      | cons i is => simp [Positions.iterate]
    rw [heq]
    exact h.comp ih

theorem upTo (h : Follows size move R) (n : Nat) :
    Follows size (Positions.upTo move n) (fun i j => ∃ k ≤ n, Steps R k i j) := by
  induction n with
  | zero =>
    refine refl.congr fun i j => ?_
    constructor
    · intro h
      subst h
      exact ⟨0, Nat.le_refl 0, rfl⟩
    · intro h
      obtain ⟨k, hk, hsteps⟩ := h
      obtain rfl := Nat.le_zero.mp hk
      exact hsteps
  | succ n ih =>
    have heq : Positions.upTo move (n + 1) =
        fun is => Positions.union is (Positions.upTo move n (move is)) := by
      funext is
      cases is with
      | nil => simp [Positions.upTo, Positions.union, h.nil, ih.nil]
      | cons i is => simp [Positions.upTo]
    rw [heq]
    refine (refl.union (h.comp ih)).congr fun i j => ?_
    constructor
    · intro h
      rcases h with rfl | ⟨m, hR, k, hk, hsteps⟩
      · exact ⟨0, Nat.zero_le _, rfl⟩
      · exact ⟨k + 1, by omega, m, hR, hsteps⟩
    · intro h
      obtain ⟨k, hk, hsteps⟩ := h
      cases k with
      | zero => exact .inl hsteps
      | succ k =>
        obtain ⟨m, hR, hsteps⟩ := hsteps
        exact .inr ⟨m, hR, k, by omega, hsteps⟩

/-- The positions that `closure` still has to visit after the least one. -/
theorem mem_visit (h : Follows size move R) {i : Nat} (hi : i ≤ size) (is : List Nat) (m : Nat) :
    m ∈ Positions.union is ((move [i]).filter (i < ·)) ↔ m ∈ is ∨ (R i m ∧ i < m) := by
  rw [Positions.mem_union, List.mem_filter, h.mem (List.pairwise_singleton _ i) (by simpa using hi)]
  simp

theorem ascending_closure (h : Follows size move R) (fuel : Nat) {is : List Nat}
    (his : Ascending is) :
    Ascending (Positions.closure move fuel is) ∧
      ∀ lo, (∀ i ∈ is, lo < i) → ∀ j ∈ Positions.closure move fuel is, lo < j := by
  induction fuel generalizing is with
  | zero => exact ⟨his, fun _ hlo => hlo⟩
  | succ fuel ih =>
    cases is with
    | nil => exact ⟨.nil, fun _ _ j hj => by cases hj⟩
    | cons i is =>
      have hcons := List.pairwise_cons.mp his
      have hvisit : Ascending (Positions.union is ((move [i]).filter (i < ·))) :=
        Positions.ascending_union hcons.2 ((h.ascending (List.pairwise_singleton _ i)).filter _)
      have hgt : ∀ m ∈ Positions.union is ((move [i]).filter (i < ·)), i < m := by
        intro m hm
        rcases (Positions.mem_union _ _).mp hm with hm | hm
        · exact hcons.1 m hm
        · simpa using (List.mem_filter.mp hm).2
      obtain ⟨hasc, hlow⟩ := ih hvisit
      refine ⟨List.pairwise_cons.mpr ⟨hlow i hgt, hasc⟩, fun lo hlo j hj => ?_⟩
      have hi := hlo i List.mem_cons_self
      rcases List.mem_cons.mp hj with rfl | hj
      · exact hi
      · exact Nat.lt_trans hi (hlow i hgt j hj)

/-- Every visit is to a greater position than the one before, so there are no more
visits than positions from `lo` on. -/
theorem mem_closure (h : Follows size move R) {fuel lo : Nat} {is : List Nat} (his : Ascending is)
    (hlo : ∀ i ∈ is, lo ≤ i) (hle : ∀ i ∈ is, i ≤ size) (hfuel : size < lo + fuel) (j : Nat) :
    j ∈ Positions.closure move fuel is ↔ ∃ i ∈ is, ∃ k, Steps R k i j := by
  induction fuel generalizing is lo with
  | zero =>
    -- Without fuel, no position is left between `lo` and the end of the text.
    have hnil : is = [] := by
      refine List.eq_nil_iff_forall_not_mem.mpr fun i hi => ?_
      have := hlo i hi
      have := hle i hi
      omega
    simp [hnil, Positions.closure]
  | succ fuel ih =>
    cases is with
    | nil => simp [Positions.closure]
    | cons i is =>
      have hcons := List.pairwise_cons.mp his
      have hi := hle i List.mem_cons_self
      have hi' := hlo i List.mem_cons_self
      have hvisit := h.mem_visit hi is
      have hasc : Ascending (Positions.union is ((move [i]).filter (i < ·))) :=
        Positions.ascending_union hcons.2 ((h.ascending (List.pairwise_singleton _ i)).filter _)
      have hlow : ∀ m ∈ Positions.union is ((move [i]).filter (i < ·)), lo + 1 ≤ m := by
        intro m hm
        rcases (hvisit m).mp hm with hm | ⟨_, hm⟩
        · have := hcons.1 m hm
          omega
        · omega
      have hhigh : ∀ m ∈ Positions.union is ((move [i]).filter (i < ·)), m ≤ size := by
        intro m hm
        rcases (hvisit m).mp hm with hm | ⟨hR, _⟩
        · exact hle m (List.mem_cons_of_mem i hm)
        · exact (h.bounds hR).2 hi
      -- What is still to visit lies above `i`, so the bound `lo` can go up with each visit.
      have hrest := ih hasc hlow hhigh (by omega)
      simp only [Positions.closure, List.mem_cons]
      rw [hrest]
      constructor
      · intro h
        rcases h with rfl | ⟨m, hm, k, hsteps⟩
        · exact ⟨j, .inl rfl, 0, rfl⟩
        · rcases (hvisit m).mp hm with hm | ⟨hR, _⟩
          · exact ⟨m, .inr hm, k, hsteps⟩
          · exact ⟨i, .inl rfl, k + 1, m, hR, hsteps⟩
      · intro h
        rcases h with ⟨m, rfl | hm, k, hsteps⟩
        · -- Steps that stay at the least position lead nowhere.
          induction k with
          | zero => exact .inl hsteps.symm
          | succ k ihk =>
            obtain ⟨m', hR, hsteps⟩ := hsteps
            rcases Nat.lt_or_ge m m' with hlt | hge
            · exact .inr ⟨m', (hvisit m').mpr (.inr ⟨hR, hlt⟩), k, hsteps⟩
            · obtain rfl : m = m' := Nat.le_antisymm (h.bounds hR).1 hge
              exact ihk hsteps
        · exact .inr ⟨m, (hvisit m).mpr (.inl hm), k, hsteps⟩

theorem closure (h : Follows size move R) :
    Follows size (Positions.closure move (size + 1)) (fun i j => ∃ k, Steps R k i j) where
  ascending his := (h.ascending_closure (size + 1) his).1
  mem his hle j := h.mem_closure his (fun i _ => Nat.zero_le i) hle (by omega) j
  bounds := by
    intro i j h
    obtain ⟨k, hsteps⟩ := h
    exact (h.iterate k).bounds hsteps

end Follows

/-! ## The search -/

/-- In every repetition of the expression the least count is no more than the
greatest. -/
def Expr.Counted : Expr → Prop
  | empty => True
  | one _ => True
  | look _ => True
  | group _ e => e.Counted
  | seq a b => a.Counted ∧ b.Counted
  | alt a b => a.Counted ∧ b.Counted
  | times e min max => e.Counted ∧ ∀ m, max = some m → min ≤ m

theorem counted_seqs {es : List Expr} (h : ∀ e ∈ es, e.Counted) : (Expr.seqs es).Counted := by
  induction es with
  | nil => trivial
  | cons e es ih =>
    have he := h e List.mem_cons_self
    cases es with
    | nil => exact he
    | cons e' es => exact ⟨he, ih fun e he => h e (List.mem_cons_of_mem _ he)⟩

theorem counted_alts {es : List Expr} (h : ∀ e ∈ es, e.Counted) : (Expr.alts es).Counted := by
  induction es with
  | nil => trivial
  | cons e es ih =>
    have he := h e List.mem_cons_self
    cases es with
    | nil => exact he
    | cons e' es => exact ⟨he, ih fun e he => h e (List.mem_cons_of_mem _ he)⟩

theorem follows_one (text : Array Char) (set : CharSet) :
    Follows text.size (Expr.reach text (.one set)) (Spans text (.one set)) where
  ascending his := by
    refine List.pairwise_map.mpr ((his.filter _).imp ?_)
    omega
  mem _ _ j := by
    simp only [Expr.reach, List.mem_map, List.mem_filter, Option.any_eq_true, spans_one]
    constructor
    · intro h
      obtain ⟨i, ⟨hi, hc⟩, rfl⟩ := h
      exact ⟨i, hi, hc, rfl⟩
    · intro h
      obtain ⟨i, hi, hc, rfl⟩ := h
      exact ⟨i, ⟨hi, hc⟩, rfl⟩
  bounds := Spans.bounds

/-- The rounds of a repetition: first those that have to be, then those that may
be. -/
theorem steps_add {R : Nat → Nat → Prop} {m n i k : Nat} :
    Steps R (m + n) i k ↔ ∃ j, Steps R m i j ∧ Steps R n j k := by
  induction m generalizing i with
  | zero => simp [Steps]
  | succ m ih =>
    rw [Nat.succ_add]
    simp only [Steps, ih]
    constructor
    · intro h
      obtain ⟨j, hR, j', hm, hn⟩ := h
      exact ⟨j', ⟨j, hR, hm⟩, hn⟩
    · intro h
      obtain ⟨j', ⟨j, hR, hm⟩, hn⟩ := h
      exact ⟨j, hR, j', hm, hn⟩

/-- Given starts in ascending order, `reach` finds the ends of exactly the pieces
that the expression spans from them. -/
theorem follows_reach (text : Array Char) {e : Expr} (he : e.Counted) :
    Follows text.size (e.reach text) (Spans text e) := by
  induction e with
  | empty => exact Follows.refl.congr fun i j => spans_empty.symm
  | one set => exact follows_one text set
  | look l => exact (Follows.filter (l.holdsAt text)).congr fun i j => spans_look.symm
  | group captures e ih => exact (ih he).congr fun i j => spans_group.symm
  | seq a b iha ihb => exact ((iha he.1).comp (ihb he.2)).congr fun i j => spans_seq.symm
  | alt a b iha ihb => exact ((iha he.1).union (ihb he.2)).congr fun i j => spans_alt.symm
  | times e min max ih =>
    have hmin := (ih he.1).iterate min
    cases max with
    | none =>
      refine (hmin.comp (ih he.1).closure).congr fun i j => ?_
      rw [spans_times]
      constructor
      · intro h
        obtain ⟨m, hm, k, hk⟩ := h
        exact ⟨min + k, Nat.le_add_right min k, nofun, steps_add.mpr ⟨m, hm, hk⟩⟩
      · intro h
        obtain ⟨n, hn, _, hsteps⟩ := h
        obtain ⟨k, rfl⟩ := Nat.exists_eq_add_of_le hn
        obtain ⟨m, hm, hk⟩ := steps_add.mp hsteps
        exact ⟨m, hm, k, hk⟩
    | some max =>
      have hle := he.2 max rfl
      refine (hmin.comp ((ih he.1).upTo (max - min))).congr fun i j => ?_
      rw [spans_times]
      constructor
      · intro h
        obtain ⟨m, hm, k, hkmax, hk⟩ := h
        refine ⟨min + k, Nat.le_add_right min k, fun m' hm' => ?_, steps_add.mpr ⟨m, hm, hk⟩⟩
        obtain rfl : max = m' := Option.some.inj hm'
        omega
      · intro h
        obtain ⟨n, hn, hnmax, hsteps⟩ := h
        obtain ⟨k, rfl⟩ := Nat.exists_eq_add_of_le hn
        have := hnmax max rfl
        obtain ⟨m, hm, hk⟩ := steps_add.mp hsteps
        exact ⟨m, hm, k, by omega, hk⟩

/-- A text is matched exactly if the expression spans a piece of it. -/
theorem isMatch_iff {e : Expr} (he : e.Counted) (text : String) :
    e.isMatch text = true ↔ ∃ i j, i ≤ text.toList.length ∧ Spans text.toList.toArray e i j := by
  have hreach := follows_reach text.toList.toArray he
  have hmem := hreach.mem (List.pairwise_lt_range (n := text.toList.length + 1))
    fun i hi => Nat.lt_succ_iff.mp (List.mem_range.mp hi)
  simp only [Expr.isMatch, Bool.not_eq_true', List.isEmpty_eq_false_iff_exists_mem,
    List.size_toArray]
  constructor
  · intro h
    obtain ⟨j, hj⟩ := h
    obtain ⟨i, hi, h⟩ := (hmem j).mp hj
    exact ⟨i, j, Nat.lt_succ_iff.mp (List.mem_range.mp hi), h⟩
  · intro h
    obtain ⟨i, j, hi, h⟩ := h
    exact ⟨j, (hmem j).mpr ⟨i, List.mem_range.mpr (Nat.lt_succ_iff.mpr hi), h⟩⟩

end AccessDecision.Regex
