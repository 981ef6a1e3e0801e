import AccessDecision.Proofs.Regex.Reach
import AccessDecision.Proofs.Regex.TokenLocality

/-
  The counts of what parses are in order

  The search is exact where in every repetition the least count is no more than the
  greatest (`isMatch_iff`). The parser sees to that: it refuses counts in braces that
  are not in order, and the signs of repetition stand for counts that are.

  What is proved:
    1. `State.Counted.run` — the parser keeps the counts of all that it holds in order.
    2. `counted_parse` — so they are in order in every expression that parses.
-/

namespace AccessDecision.Regex

/-! ## Tokens -/

/-- The counts of a token are in order. -/
def Token.Counted : Token → Prop
  | .item e _ => e.Counted
  | .times min max => ∀ m, max = some m → min ≤ m
  | _ => True

section
variable {flags : Flags} {cs left : List Char}

theorem counted_readCounts {min : Nat} {max : Option Nat}
    (h : readCounts flags cs = .ok ((min, max), left)) : ∀ m, max = some m → min ≤ m := by
  obtain ⟨⟨first, rest⟩, _, h⟩ := Except.bind_eq_ok.mp h
  obtain ⟨least, _, h⟩ := Except.bind_eq_ok.mp h
  extract_lets close at h
  -- The counts are compared once the closing brace is there, whatever the greatest count is.
  have hclose : ∀ {r}, (.ok r >>= close) = .ok ((min, max), left) →
      ∀ m, max = some m → min ≤ m := by
    intro r hok
    obtain ⟨most, rest⟩ := r
    rw [Except.ok_bind] at hok
    dsimp only [close] at hok
    split at hok
    · obtain ⟨hall, hok⟩ := Except.ite_else_error_eq_ok.mp hok
      cases hok
      intro m hm
      simpa [hm] using hall
    · cases hok
  split at h
  · split at h
    · exact hclose h
    · split at h
      · exact hclose h
      · cases h
      · cases h
  · exact hclose h

theorem counted_readToken {t : Token} (h : readToken flags cs = .ok (t, left)) : t.Counted := by
  cases readToken_eq_ok.mp h with
  | @escape a _ _ _ => cases a <;> trivial
  | opening ht =>
    -- A parenthesis opens a group or sets flags, and neither counts.
    unfold readOpening at ht
    split at ht
    · cases ht
    · cases ht
    · cases ht
    · cases ht
    · obtain ⟨_, _, hok⟩ := Except.map_eq_ok.mp ht
      cases hok
      trivial
    · obtain ⟨_, _, hok⟩ := Except.map_eq_ok.mp ht
      cases hok
      trivial
    · split at ht
      · cases ht
      · cases ht
        trivial
      · obtain ⟨_, hok⟩ := Except.ite_error_eq_ok.mp ht
        cases hok
        trivial
    · cases ht
      trivial
  | counts hcounts => exact counted_readCounts hcounts
  | sign rest hsign =>
    unfold repetition? at hsign
    split at hsign
    all_goals cases hsign
    · exact fun m _ => Nat.zero_le m
    · exact nofun
    · exact nofun
  | _ => trivial

end

/-! ## Levels -/

theorem counted_repeated {e : Expr} {min : Nat} {max : Option Nat} (he : e.Counted)
    (h : ∀ m, max = some m → min ≤ m) : (e.repeated min max).Counted := by
  unfold Expr.repeated
  split
  · refine ⟨he, fun m hm => ?_⟩
    cases hm
    cases max with
    | none => exact Nat.min_le_right min 1
    | some max =>
      have hle := h max rfl
      exact Nat.le_min.mpr ⟨Nat.le_trans (Nat.min_le_left min 1) hle, Nat.min_le_right min 1⟩
  · exact ⟨he, h⟩

namespace Level

/-- The counts are in order in all that a level holds. -/
structure Counted (l : Level) : Prop where
  branches : ∀ p ∈ l.branches, p.expr.Counted
  items : ∀ p ∈ l.items, p.expr.Counted

theorem counted_empty : Counted {} := ⟨nofun, nofun⟩

variable {l : Level}

theorem Counted.push (h : l.Counted) {p : Piece} (hp : p.expr.Counted) : (l.push p).Counted :=
  ⟨h.branches, List.forall_mem_cons.mpr ⟨hp, h.items⟩⟩

theorem counted_ofItems {items : List Piece} (h : ∀ p ∈ items, p.expr.Counted) :
    (Piece.ofItems items).expr.Counted := by
  match items with
  | [] => trivial
  | [p] => exact h p List.mem_cons_self
  | p :: q :: rest =>
    refine counted_seqs fun e he => ?_
    obtain ⟨r, hr, rfl⟩ := List.mem_map.mp he
    exact h r (List.mem_reverse.mp hr)

theorem counted_ofBranches {branches : List Piece} (h : ∀ p ∈ branches, p.expr.Counted) :
    (Piece.ofBranches branches).expr.Counted := by
  match branches with
  | [] => trivial
  | [p] => exact h p List.mem_cons_self
  | p :: q :: rest =>
    refine counted_alts fun e he => ?_
    obtain ⟨r, hr, rfl⟩ := List.mem_map.mp he
    exact h r (List.mem_reverse.mp hr)

theorem Counted.bar (h : l.Counted) : l.bar.Counted :=
  ⟨List.forall_mem_cons.mpr ⟨counted_ofItems h.items, h.branches⟩, nofun⟩

theorem Counted.finish (h : l.Counted) : l.finish.expr.Counted := counted_ofBranches h.bar.branches

theorem Counted.repeatLast (h : l.Counted) {min : Nat} {max : Option Nat}
    (hcounts : ∀ m, max = some m → min ≤ m) {l' : Level} (hok : l.repeatLast min max = .ok l') :
    l'.Counted := by
  unfold Level.repeatLast at hok
  split at hok
  · rename_i p rest hitems
    obtain ⟨_, hok⟩ := Except.ite_else_error_eq_ok.mp hok
    cases hok
    have hall := h.items
    rw [hitems] at hall
    obtain ⟨hp, hrest⟩ := List.forall_mem_cons.mp hall
    exact ⟨h.branches, List.forall_mem_cons.mpr ⟨counted_repeated hp hcounts, hrest⟩⟩
  · cases hok

end Level

/-! ## Runs -/

/-- The counts are in order in all that the parser holds. -/
structure State.Counted (s : State) : Prop where
  level : s.level.Counted
  outer : ∀ g ∈ s.outer, g.level.Counted

variable {s s' : State}

theorem State.Counted.step (h : s.Counted) {t : Token} (ht : t.Counted)
    (hstep : s.step t = .ok s') : s'.Counted := by
  cases t with
  | item e depth =>
    cases hstep
    exact ⟨h.level.push ht, h.outer⟩
  | times min max =>
    obtain ⟨level, hlevel, rfl⟩ := Except.map_eq_ok.mp hstep
    exact ⟨h.level.repeatLast ht hlevel, h.outer⟩
  | «open» captures name flags =>
    have hopened : ∀ g ∈ ⟨captures, s.flags, s.level⟩ :: s.outer, g.level.Counted :=
      List.forall_mem_cons.mpr ⟨h.level, h.outer⟩
    cases name with
    | none =>
      cases hstep
      exact ⟨Level.counted_empty, hopened⟩
    | some name =>
      obtain ⟨_, hok⟩ := Except.ite_error_eq_ok.mp hstep
      cases hok
      exact ⟨Level.counted_empty, hopened⟩
  | setFlags flags =>
    cases hstep
    exact ⟨h.level.push trivial, h.outer⟩
  | close =>
    unfold State.step at hstep
    dsimp only at hstep
    split at hstep
    · cases hstep
    · rename_i g outer houter
      cases hstep
      have hall := h.outer
      rw [houter] at hall
      obtain ⟨hg, houter⟩ := List.forall_mem_cons.mp hall
      exact ⟨hg.push h.level.finish, houter⟩
  | bar =>
    cases hstep
    exact ⟨h.level.bar, h.outer⟩

theorem State.Counted.run (h : s.Counted) {fuel : Nat} {cs : List Char}
    (hrun : State.run fuel s cs = .ok s') : s'.Counted := by
  induction fuel generalizing s cs with
  | zero => cases hrun
  | succ fuel ih =>
    rw [State.run] at hrun
    split at hrun
    · cases hrun
      exact h
    · split at hrun
      · cases hrun
      · rename_i t rest hread
        split at hrun
        · cases hrun
        · rename_i s₁ hstep
          exact ih (h.step (counted_readToken hread) hstep) hrun

/-- The counts are in order in every expression that parses. -/
theorem counted_parse {text : List Char} {e : Expr} (h : parse text = .ok e) : e.Counted := by
  unfold parse at h
  split at h
  · cases h
  · rename_i s hrun
    obtain ⟨_, hdepth⟩ := Except.ite_else_error_eq_ok.mp h
    obtain ⟨_, hok⟩ := Except.ite_else_error_eq_ok.mp hdepth
    cases hok
    have hstart : State.Counted {} := ⟨Level.counted_empty, nofun⟩
    exact (hstart.run hrun).level.finish

end AccessDecision.Regex
