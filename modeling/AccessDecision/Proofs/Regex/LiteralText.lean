import AccessDecision.Regex.Literal
import AccessDecision.Regex.Parser

/-
  How the parser reads literal text

  `Reads s cs s' rest` says that the parser, working token by token, comes from
  state `s` to state `s'` over the front of `cs` and leaves `rest`. Unlike
  `State.run` it has no fuel and stops anywhere, so pieces of text are read one
  after the other (`Reads.trans`) whatever follows them.

  What is proved:
    1. `parse_of_reads` — what the parser reads to the end is what the text
       stands for.
    2. `reads_escape` — escaped text is read as its characters, one item each,
       whatever characters they are.
-/

namespace AccessDecision.Regex

/-- The parser works off the front of a text and leaves the rest. Every token takes
at least one character. -/
inductive Reads : State → List Char → State → List Char → Prop where
  | done (s : State) (cs : List Char) : Reads s cs s cs
  | token {s s' s'' : State} {cs mid rest : List Char} {t : Token} :
      readToken s.flags (skipBlanks s.flags cs) = .ok (t, mid) → mid.length < cs.length →
      s.step t = .ok s' → Reads s' mid s'' rest → Reads s cs s'' rest

namespace Reads

variable {s s' s'' : State} {cs mid rest : List Char}

theorem trans (h : Reads s cs s' mid) (h' : Reads s' mid s'' rest) : Reads s cs s'' rest := by
  induction h with
  | done s cs => exact h'
  | token hread hlt hstep _ ih => exact .token hread hlt hstep (ih h')

/-- Reads one token where blanks count. -/
theorem single {t : Token} (hblanks : s.flags.ignoreBlanks = false)
    (hread : readToken s.flags cs = .ok (t, rest)) (hlt : rest.length < cs.length)
    (hstep : s.step t = .ok s') : Reads s cs s' rest := by
  refine .token ?_ hlt hstep (.done s' rest)
  simpa [skipBlanks, hblanks] using hread

/-- With more fuel than characters the parser gets as far as the text is read, and
has more fuel than characters again. -/
theorem run (h : Reads s cs s' rest) {fuel : Nat} (hfuel : cs.length < fuel) :
    ∃ fuel', rest.length < fuel' ∧ State.run fuel s cs = State.run fuel' s' rest := by
  induction h generalizing fuel with
  | done s cs => exact ⟨fuel, hfuel, rfl⟩
  | @token s s' s'' cs mid rest t hread hlt hstep _ ih =>
    obtain ⟨fuel, rfl⟩ := Nat.exists_eq_add_of_lt (Nat.zero_lt_of_lt hfuel)
    rw [Nat.zero_add] at hfuel ⊢
    -- The token takes at least one character, which pays for the fuel of its step.
    obtain ⟨fuel', hfuel', hrun⟩ := ih (show mid.length < fuel by omega)
    refine ⟨fuel', hfuel', ?_⟩
    rw [← hrun, State.run]
    split
    · rename_i hnil
      rw [hnil] at hread
      cases hread
    · rw [hread]
      simp only [hstep]

/-- A run that succeeds gets as far as the text is read, whatever fuel it has. -/
theorem run_ok (h : Reads s cs s' rest) {e : State} {fuel : Nat}
    (hrun : State.run fuel s cs = .ok e) : ∃ fuel', State.run fuel' s' rest = .ok e := by
  induction h generalizing fuel with
  | done s cs => exact ⟨fuel, hrun⟩
  | @token s s' s'' cs mid rest t hread _ hstep _ ih =>
    cases fuel with
    | zero => cases hrun
    | succ fuel =>
      rw [State.run] at hrun
      split at hrun
      · rename_i hnil
        rw [hnil] at hread
        cases hread
      · rw [hread] at hrun
        simp only [hstep] at hrun
        exact ih hrun

end Reads

/-- Text that is read to its end stands for what the parser has then, if no group
is open and it does not nest too deeply. -/
theorem parse_of_reads {cs : List Char} {s : State} (h : Reads {} cs s []) (houter : s.outer = [])
    (hdepth : s.level.finish.depth ≤ depthLimit) : parse cs = .ok s.level.finish.expr := by
  obtain ⟨fuel, hfuel, hrun⟩ := h.run (Nat.lt_succ_self cs.length)
  obtain ⟨fuel, rfl⟩ := Nat.exists_eq_add_of_lt hfuel
  have hdone : State.run (0 + fuel + 1) s [] = .ok s := by
    have : skipBlanks s.flags [] = [] := by
      simp only [skipBlanks]
      split <;> rfl
    rw [State.run, this]
  rw [parse, hrun]
  simp only [List.length_nil, hdone, houter, List.isEmpty_nil, if_true, hdepth]

/-! ## Sequences of items -/

namespace Level

/-- Adds items, the first of them first. -/
def pushAll (l : Level) (ps : List Piece) : Level := { l with items := ps.reverse ++ l.items }

theorem pushAll_cons (l : Level) (p : Piece) (ps : List Piece) :
    l.pushAll (p :: ps) = (l.push p).pushAll ps := by
  simp [pushAll, push]

end Level

theorem maxDepth_le {ps : List Piece} {d : Nat} (h : ∀ p ∈ ps, p.depth ≤ d) :
    Piece.maxDepth ps ≤ d := by
  have hfold : ∀ (l : List Nat) (n : Nat), n ≤ d → (∀ k ∈ l, k ≤ d) → l.foldl Nat.max n ≤ d := by
    intro l
    induction l with
    | nil => intro n hn _; exact hn
    | cons k l ih =>
      intro n hn hl
      refine ih (Nat.max n k) (Nat.max_le.mpr ⟨hn, hl k List.mem_cons_self⟩) ?_
      exact fun m hm => hl m (List.mem_cons_of_mem k hm)
  refine hfold _ 0 (Nat.zero_le d) fun k hk => ?_
  obtain ⟨p, hp, rfl⟩ := List.mem_map.mp hk
  exact h p hp

theorem le_maxDepth {ps : List Piece} {p : Piece} (hp : p ∈ ps) : p.depth ≤ Piece.maxDepth ps := by
  have hfold : ∀ (l : List Nat) (n : Nat),
      n ≤ l.foldl Nat.max n ∧ ∀ k ∈ l, k ≤ l.foldl Nat.max n := by
    intro l
    induction l with
    | nil => exact fun n => ⟨Nat.le_refl n, nofun⟩
    | cons k l ih =>
      intro n
      obtain ⟨hstart, hall⟩ := ih (Nat.max n k)
      refine ⟨Nat.le_trans (Nat.le_max_left n k) hstart, List.forall_mem_cons.mpr ⟨?_, hall⟩⟩
      exact Nat.le_trans (Nat.le_max_right n k) hstart
  exact (hfold _ 0).2 _ (List.mem_map.mpr ⟨p, hp, rfl⟩)

/-- A level to which only items were added is their sequence. -/
theorem finish_pushAll (ps : List Piece) :
    (Level.pushAll {} ps).finish.expr = .seqs (ps.map (·.expr)) := by
  match ps with
  | [] => rfl
  | [p] => rfl
  | p :: q :: ps =>
    have hitems : (Level.pushAll {} (p :: q :: ps)).items = (p :: q :: ps).reverse := by
      simp [Level.pushAll]
    have hcons : ∃ a b rest, (p :: q :: ps).reverse = a :: b :: rest := by
      match h : (p :: q :: ps).reverse with
      | [] => simp at h
      | [a] => simpa using congrArg List.length h
      | a :: b :: rest => exact ⟨a, b, rest, rfl⟩
    -- A level keeps its items latest first, and turns them round when it is closed.
    obtain ⟨a, b, rest, hrev⟩ := hcons
    have hback : (a :: b :: rest).reverse = p :: q :: ps := by
      rw [← hrev, List.reverse_reverse]
    simp only [Level.finish, Level.bar, hitems, hrev]
    simp only [Level.pushAll, Piece.ofItems, Piece.ofBranches, hback]

theorem depth_finish_pushAll {ps : List Piece} {d : Nat} (h : ∀ p ∈ ps, p.depth ≤ d) :
    (Level.pushAll {} ps).finish.depth ≤ d + 1 := by
  have hitems : ∀ items : List Piece, (∀ p ∈ items, p.depth ≤ d) →
      (Piece.ofItems items).depth ≤ d + 1 := by
    intro items hitems
    match items with
    | [] => exact Nat.zero_le _
    | [p] => exact Nat.le_succ_of_le (hitems p List.mem_cons_self)
    | p :: q :: rest => exact Nat.succ_le_succ (maxDepth_le hitems)
  refine hitems _ fun p hp => h p ?_
  simpa [Level.pushAll] using hp

/-- No item of a level is deeper than the whole of it. -/
theorem le_depth_finish {ps : List Piece} {p : Piece} (hp : p ∈ ps) :
    p.depth ≤ (Level.pushAll {} ps).finish.depth := by
  have hitems : ∀ items : List Piece, p ∈ items → p.depth ≤ (Piece.ofItems items).depth := by
    intro items hp
    match items with
    | [] => cases hp
    | [q] => exact Nat.le_of_eq (congrArg _ (List.mem_singleton.mp hp))
    | q :: r :: items => exact Nat.le_succ_of_le (le_maxDepth hp)
  exact hitems _ (by simpa [Level.pushAll] using hp)

/-! ## Escaped text -/

theorem isMeta_iff {c : Char} : isMeta c = true ↔
    c = '\\' ∨ c = '.' ∨ c = '+' ∨ c = '*' ∨ c = '?' ∨ c = '(' ∨ c = ')' ∨ c = '|' ∨ c = '[' ∨
      c = ']' ∨ c = '\x7b' ∨ c = '\x7d' ∨ c = '^' ∨ c = '$' ∨ c = '#' ∨ c = '&' ∨ c = '-' ∨
      c = '~' := by
  simp [isMeta]

/-- A backslash makes every character with a meaning stand for itself. -/
theorem readToken_escaped (flags : Flags) {c : Char} (hc : isMeta c = true) (rest : List Char) :
    readToken flags ('\\' :: c :: rest) = .ok (.item (.one (charSet flags c)) 0, rest) := by
  have hdigit : c.isDigit = false := by
    rcases isMeta_iff.mp hc with
      rfl | rfl | rfl | rfl | rfl | rfl | rfl | rfl | rfl | rfl | rfl | rfl | rfl | rfl | rfl |
      rfl | rfl | rfl <;> rfl
  have hescape : readEscape flags (c :: rest) = .ok (.char c, rest) := by
    simp [readEscape, hdigit, isEscapable, hc]
  rw [readToken, hescape]
  rfl

/-- A character without a meaning stands for itself. -/
theorem readToken_plain (flags : Flags) {c : Char} (hc : isMeta c = false) (rest : List Char) :
    readToken flags (c :: rest) = .ok (.item (.one (charSet flags c)) 0, rest) := by
  rw [← Bool.not_eq_true, isMeta_iff] at hc
  unfold readToken
  split <;> simp_all

/-- The item that one literal character is read as. -/
def literalPiece (flags : Flags) (c : Char) : Piece := ⟨.one (charSet flags c), 0, true⟩

theorem reads_escapeChar {s : State} (hblanks : s.flags.ignoreBlanks = false) (c : Char)
    (rest : List Char) :
    Reads s (escapeChar c ++ rest)
      { s with level := s.level.push (literalPiece s.flags c) } rest := by
  cases hc : isMeta c with
  | true =>
    simp only [escapeChar, hc, if_true, List.cons_append, List.nil_append]
    refine .single hblanks (readToken_escaped s.flags hc rest) ?_ rfl
    rw [List.length_cons, List.length_cons]
    omega
  | false =>
    simp only [escapeChar, hc, if_false, List.cons_append, List.nil_append, Bool.false_eq_true]
    exact .single hblanks (readToken_plain s.flags hc rest) (by simp) rfl

/-- Escaped text is read as its characters, one item each. -/
theorem reads_escape {s : State} (hblanks : s.flags.ignoreBlanks = false) (cs rest : List Char) :
    Reads s (escape cs ++ rest)
      { s with level := s.level.pushAll (cs.map (literalPiece s.flags)) } rest := by
  induction cs generalizing s with
  | nil => exact .done s rest
  | cons c cs ih =>
    rw [escape, List.flatMap_cons, List.append_assoc, List.map_cons, Level.pushAll_cons]
    refine (reads_escapeChar hblanks c _).trans ?_
    exact ih (s := { s with level := s.level.push (literalPiece s.flags c) }) hblanks

end AccessDecision.Regex
