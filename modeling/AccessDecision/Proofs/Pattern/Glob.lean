import AccessDecision.Pattern.Compiled
import AccessDecision.Proofs.Regex.LiteralText
import AccessDecision.Proofs.Regex.Reach
import AccessDecision.Proofs.Text.Split

/-
  Wildcard patterns match what they glob

  `Globs p c` says on its own, without expressions, which candidates a pattern
  stands for: a star for any run of characters, line ends included, and every
  other character for itself, over the whole of the candidate.

  What is proved:
    1. `parse_wildcardRegex` — the expression text made of a pattern is always an
       expression, whatever characters the pattern holds: one item for each
       character between the two anchors.
    2. `isMatch_wildcardExpr` — that expression matches exactly the candidates
       that the pattern globs.
    3. `wildcard_globs` — so compiling a pattern fails only if the expression is
       too big, and otherwise decides by `Globs`.
-/

namespace AccessDecision

/-- The candidates that a wildcard pattern stands for. -/
inductive Globs : List Char → List Char → Prop where
  | nil : Globs [] []
  | char {c : Char} {p s : List Char} : c ≠ wildcardChar → Globs p s → Globs (c :: p) (c :: s)
  | star (run : List Char) {p s : List Char} : Globs p s → Globs (wildcardChar :: p) (run ++ s)

theorem globs_nil {s : List Char} : Globs [] s ↔ s = [] := by
  constructor
  · intro h
    cases h
    rfl
  · intro h
    subst h
    exact .nil

theorem globs_char {c : Char} (hc : c ≠ wildcardChar) {p s : List Char} :
    Globs (c :: p) s ↔ ∃ s', s = c :: s' ∧ Globs p s' := by
  constructor
  · intro h
    cases h with
    | char _ h => exact ⟨_, rfl, h⟩
    | star run h => exact absurd rfl hc
  · intro h
    obtain ⟨s', rfl, h⟩ := h
    exact .char hc h

theorem globs_star {p s : List Char} :
    Globs (wildcardChar :: p) s ↔ ∃ k ≤ s.length, Globs p (s.drop k) := by
  constructor
  · intro h
    cases h with
    | char hc _ => exact absurd rfl hc
    | star run h => exact ⟨run.length, by simp, by simpa using h⟩
  · intro h
    obtain ⟨k, _, h⟩ := h
    have := Globs.star (s.take k) h
    rwa [List.take_append_drop] at this

/-- A pattern without a star globs only its own text. -/
theorem globs_of_not_mem {p s : List Char} (h : wildcardChar ∉ p) : Globs p s ↔ p = s := by
  induction p generalizing s with
  | nil => exact globs_nil.trans eq_comm
  | cons c p ih =>
    rw [List.mem_cons, not_or] at h
    rw [globs_char (Ne.symm h.1)]
    constructor
    · intro hglobs
      obtain ⟨s', rfl, hs'⟩ := hglobs
      rw [(ih h.2).mp hs']
    · intro heq
      exact ⟨p, heq.symm, (ih h.2).mpr rfl⟩

namespace CompiledPattern

open Regex

/-! ## From the pattern to the expression -/

/-- What one character of a pattern becomes in the text of the expression. -/
def elementText (c : Char) : List Char := if c = wildcardChar then anyText else escapeChar c

/-- The item that one character of a pattern is read as. -/
def elementPiece (c : Char) : Piece :=
  if c = wildcardChar then ⟨.group false (.times (.one .any) 0 none), 2, true⟩
  else literalPiece {} c

/-- The items of the expression of a pattern. -/
def wildcardPieces (p : List Char) : List Piece :=
  ⟨.look .textStart, 0, true⟩ :: (p.map elementPiece ++ [⟨.look .textEnd, 0, true⟩])

/-- The expression of a pattern. -/
def wildcardExpr (p : List Char) : Expr := .seqs ((wildcardPieces p).map (·.expr))

theorem joinPieces_cons_cons (c : Char) (field : List Char) (rest : List (List Char)) :
    joinPieces ((c :: field) :: rest) = escapeChar c ++ joinPieces (field :: rest) := by
  cases rest with
  | nil => simp [joinPieces, escape]
  | cons next rest => simp [joinPieces, escape]

/-- Joining the pieces between the stars writes the pattern character by
character. -/
theorem joinPieces_fields (p : List Char) :
    joinPieces (Text.fields wildcardChar p) = p.flatMap elementText := by
  induction p with
  | nil => rfl
  | cons c p ih =>
    rw [Text.fields_cons, List.flatMap_cons, ← ih]
    cases h : Text.fields wildcardChar p with
    | nil => exact absurd h (Text.fields_ne_nil wildcardChar p)
    | cons field rest =>
      simp only [Text.consField]
      by_cases hc : c = wildcardChar
      · simp [hc, joinPieces, elementText, escape]
      · simp [hc, joinPieces_cons_cons, elementText]

theorem reads_element {s : State} (hflags : s.flags = {}) (c : Char) (rest : List Char) :
    Reads s (elementText c ++ rest) { s with level := s.level.push (elementPiece c) } rest := by
  by_cases hc : c = wildcardChar
  · obtain ⟨flags, names, level, outer⟩ := s
    obtain rfl : flags = {} := hflags
    simp only [elementText, elementPiece, hc, if_true]
    have hopen : Reads ⟨{}, names, level, outer⟩ (anyText ++ rest)
        ⟨{ dotAll := true }, names, {}, ⟨false, {}, level⟩ :: outer⟩
        (['.', '*', ')'] ++ rest) := .single rfl rfl (by simp [anyText]) rfl
    have hdot : Reads ⟨{ dotAll := true }, names, {}, ⟨false, {}, level⟩ :: outer⟩
        (['.', '*', ')'] ++ rest)
        ⟨{ dotAll := true }, names, { items := [⟨.one .any, 0, true⟩] },
          ⟨false, {}, level⟩ :: outer⟩ (['*', ')'] ++ rest) := .single rfl rfl (by simp) rfl
    have hstar : Reads ⟨{ dotAll := true }, names, { items := [⟨.one .any, 0, true⟩] },
          ⟨false, {}, level⟩ :: outer⟩ (['*', ')'] ++ rest)
        ⟨{ dotAll := true }, names, { items := [⟨.times (.one .any) 0 none, 1, true⟩] },
          ⟨false, {}, level⟩ :: outer⟩ ([')'] ++ rest) := .single rfl rfl (by simp) rfl
    have hclose : Reads ⟨{ dotAll := true }, names,
          { items := [⟨.times (.one .any) 0 none, 1, true⟩] }, ⟨false, {}, level⟩ :: outer⟩
        ([')'] ++ rest)
        ⟨{}, names, level.push ⟨.group false (.times (.one .any) 0 none), 2, true⟩, outer⟩
        rest := .single rfl rfl (by simp) rfl
    exact ((hopen.trans hdot).trans hstar).trans hclose
  · simp only [elementText, elementPiece, hc, if_false]
    have := reads_escapeChar (s := s) (by rw [hflags]) c rest
    rwa [show literalPiece s.flags c = literalPiece {} c by rw [hflags]] at this

theorem reads_elements {s : State} (hflags : s.flags = {}) (p rest : List Char) :
    Reads s (p.flatMap elementText ++ rest)
      { s with level := s.level.pushAll (p.map elementPiece) } rest := by
  induction p generalizing s with
  | nil => exact .done s rest
  | cons c p ih =>
    rw [List.flatMap_cons, List.append_assoc, List.map_cons, Level.pushAll_cons]
    exact (reads_element hflags c _).trans (ih (s := { s with level := _ }) hflags)

theorem reads_wildcardRegex (p : List Char) :
    Reads {} (wildcardRegex p) { level := Level.pushAll {} (wildcardPieces p) } [] := by
  have hstart : Reads {} (wildcardRegex p) { level := Level.push {} ⟨.look .textStart, 0, true⟩ }
      (p.flatMap elementText ++ ['$']) := by
    rw [← joinPieces_fields]
    exact .single rfl rfl (by simp [wildcardRegex]) rfl
  refine hstart.trans ((reads_elements rfl p ['$']).trans ?_)
  refine .single rfl rfl (by simp) ?_
  simp [State.step, Level.push, Level.pushAll, wildcardPieces, endLook]

theorem depth_wildcardPieces (p : List Char) : ∀ q ∈ wildcardPieces p, q.depth ≤ 2 := by
  intro q hq
  simp only [wildcardPieces, List.mem_cons, List.mem_append, List.mem_map,
    List.not_mem_nil, or_false] at hq
  rcases hq with rfl | ⟨c, _, rfl⟩ | rfl
  · exact Nat.zero_le 2
  · simp only [elementPiece]
    split
    · exact Nat.le_refl 2
    · exact Nat.zero_le 2
  · exact Nat.zero_le 2

/-- The text made of a pattern is an expression, whatever the pattern holds. -/
theorem parse_wildcardRegex (p : List Char) : parse (wildcardRegex p) = .ok (wildcardExpr p) := by
  have hdepth := depth_finish_pushAll (depth_wildcardPieces p)
  rw [parse_of_reads (reads_wildcardRegex p) rfl (Nat.le_trans hdepth (by decide)),
    finish_pushAll, wildcardExpr]

/-! ## What the expression matches -/

theorem counted_wildcardExpr (p : List Char) : (wildcardExpr p).Counted := by
  refine counted_seqs fun e he => ?_
  simp only [wildcardPieces, List.map_cons, List.map_append, List.map_map, List.map_nil,
    List.mem_cons, List.mem_append, List.mem_map, List.not_mem_nil, or_false] at he
  rcases he with rfl | ⟨c, _, rfl⟩ | rfl
  · trivial
  · simp only [Function.comp, elementPiece]
    split
    · exact ⟨trivial, nofun⟩
    · trivial
  · trivial

section
variable {cs : List Char} {i j : Nat}

theorem steps_any (n : Nat) :
    Steps (Spans cs.toArray (.one .any)) n i j ↔ j = i + n ∧ (n = 0 ∨ j ≤ cs.length) := by
  induction n generalizing i with
  | zero => simp [Steps, eq_comm]
  | succ n ih =>
    simp only [Steps, spans_one, List.getElem?_toArray, ih]
    constructor
    · intro h
      obtain ⟨m, ⟨⟨c, hc, _⟩, rfl⟩, rfl, hle⟩ := h
      have := (List.getElem?_eq_some_iff.mp hc).1
      omega
    · intro h
      obtain ⟨rfl, hle⟩ := h
      have hlt : i < cs.length := by omega
      exact ⟨i + 1, ⟨⟨cs[i], List.getElem?_eq_getElem hlt, rfl⟩, rfl⟩, by omega, by omega⟩

/-- Any run of characters: every later position is reached. -/
theorem spans_anyRun (hi : i ≤ cs.length) :
    Spans cs.toArray (.group false (.times (.one .any) 0 none)) i j ↔ i ≤ j ∧ j ≤ cs.length := by
  rw [spans_group, spans_times]
  simp only [steps_any]
  constructor
  · intro h
    obtain ⟨n, _, _, rfl, h⟩ := h
    omega
  · intro h
    obtain ⟨hij, hj⟩ := h
    exact ⟨j - i, Nat.zero_le _, nofun, by omega, .inr hj⟩

/-- From a position on, the items of a pattern up to the end of the text span what
the pattern globs. -/
theorem spans_elements (p : List Char) (hi : i ≤ cs.length) :
    Spans cs.toArray (.seqs (p.map (fun c => (elementPiece c).expr) ++ [.look .textEnd])) i j ↔
      j = cs.length ∧ Globs p (cs.drop i) := by
  induction p generalizing i with
  | nil =>
    rw [globs_nil, List.drop_eq_nil_iff]
    simp only [List.map_nil, List.nil_append, Expr.seqs, spans_textEnd]
    omega
  | cons c p ih =>
    rw [List.map_cons, List.cons_append, spans_seqs_cons]
    by_cases hc : c = wildcardChar
    · subst hc
      simp only [elementPiece, if_true, spans_anyRun hi, globs_star, List.length_drop,
        List.drop_drop]
      -- The run of the star ends at `m`, where the rest of the pattern starts.
      constructor
      · intro h
        obtain ⟨m, ⟨him, hm⟩, hrest⟩ := h
        obtain ⟨rfl, hglob⟩ := (ih hm).mp hrest
        refine ⟨rfl, m - i, by omega, ?_⟩
        rwa [show i + (m - i) = m by omega]
      · intro h
        obtain ⟨rfl, k, hk, hglob⟩ := h
        exact ⟨i + k, by omega, (ih (by omega)).mpr ⟨rfl, hglob⟩⟩
    · simp only [elementPiece, hc, if_false, literalPiece, charSet, Bool.false_eq_true,
        spans_single, globs_char hc]
      constructor
      · intro h
        obtain ⟨m, ⟨hget, rfl⟩, hrest⟩ := h
        obtain ⟨hlt, hcs⟩ := List.getElem?_eq_some_iff.mp hget
        obtain ⟨rfl, hglob⟩ := (ih hlt).mp hrest
        exact ⟨rfl, _, by rw [← hcs, List.drop_eq_getElem_cons hlt], hglob⟩
      · intro h
        obtain ⟨rfl, s, hs, hglob⟩ := h
        have hlt : i < cs.length := by
          have := congrArg List.length hs
          simp only [List.length_drop, List.length_cons] at this
          omega
        rw [List.drop_eq_getElem_cons hlt, List.cons.injEq] at hs
        refine ⟨i + 1, ⟨List.getElem?_eq_some_iff.mpr ⟨hlt, hs.1⟩, rfl⟩, ?_⟩
        exact (ih hlt).mpr ⟨rfl, hs.2 ▸ hglob⟩

end

/-- The expression of a pattern matches exactly the candidates that the pattern
globs. -/
theorem isMatch_wildcardExpr (p : List Char) (candidate : String) :
    (wildcardExpr p).isMatch candidate = true ↔ Globs p candidate.toList := by
  rw [isMatch_iff (counted_wildcardExpr p)]
  simp only [wildcardExpr, wildcardPieces, List.map_cons, List.map_append, List.map_map,
    List.map_nil, spans_seqs_cons, spans_textStart]
  constructor
  · intro h
    obtain ⟨i, j, hi, m, ⟨h0, rfl⟩, hrest⟩ := h
    obtain rfl : i = 0 := by omega
    exact ((spans_elements p (Nat.zero_le _)).mp hrest).2
  · intro h
    refine ⟨0, candidate.toList.length, Nat.zero_le _, 0, ⟨.inl rfl, rfl⟩, ?_⟩
    exact (spans_elements p (Nat.zero_le _)).mpr ⟨rfl, h⟩

/-! ## Compiling a pattern -/

/-- The compiled form of a pattern whose expression is within the bound. -/
def ofWildcard (pattern : String) (budget : Time.Duration) : CompiledPattern :=
  ⟨pattern, String.ofList (wildcardRegex pattern.toList), wildcardExpr pattern.toList, budget⟩

theorem wildcard_eq (pattern : String) (budget : Time.Duration) :
    wildcard pattern budget =
      if (wildcardExpr pattern.toList).memory ≤ sizeLimit then .ok (ofWildcard pattern budget)
      else .error (.compile (.tooBig sizeLimit)) := by
  rw [wildcard, ofExpression, compile, parse_wildcardRegex]
  by_cases h : (wildcardExpr pattern.toList).memory ≤ sizeLimit
  · simp only [h, if_true, ofWildcard]
  · simp only [h, if_false]

theorem eq_ofWildcard {key : String} {budget : Time.Duration} {p : CompiledPattern}
    (h : wildcard key budget = .ok p) : p = ofWildcard key budget := by
  rw [wildcard_eq] at h
  split at h
  · exact (Except.ok.inj h).symm
  · cases h

/-- Within its budget a pattern decides by its expression. -/
theorem isMatch_of_inTime {clock : Clock} {p : CompiledPattern} {candidate : String}
    (h : clock 0 p ≤ p.budget) :
    p.isMatch clock candidate = .ok (p.expr.isMatch candidate) := by
  rw [isMatch, checkBudget, if_pos h]
  rfl

end CompiledPattern

/-- Compiling a wildcard pattern fails only if its expression is bigger than the
limit, never because of what the pattern holds. If it succeeds, an evaluation
within the budget decides whether the candidate fits the pattern. -/
theorem wildcard_globs (pattern : String) (budget : Time.Duration) :
    (∃ e, Regex.parse (CompiledPattern.wildcardRegex pattern.toList) = .ok e ∧
      Regex.sizeLimit < e.memory ∧
      CompiledPattern.wildcard pattern budget = .error (.compile (.tooBig Regex.sizeLimit))) ∨
    (∃ p, CompiledPattern.wildcard pattern budget = .ok p ∧ p.budget = budget ∧
      ∀ (clock : Clock) (candidate : String), clock 0 p ≤ budget →
        (p.isMatch clock candidate = .ok true ↔ Globs pattern.toList candidate.toList) ∧
        (p.isMatch clock candidate = .ok false ↔ ¬ Globs pattern.toList candidate.toList)) := by
  rw [CompiledPattern.wildcard_eq]
  split
  · refine .inr ⟨_, rfl, rfl, fun clock candidate htime => ?_⟩
    rw [CompiledPattern.isMatch_of_inTime htime, ← CompiledPattern.isMatch_wildcardExpr]
    simp [CompiledPattern.ofWildcard]
  · rename_i hbig
    exact .inl ⟨_, CompiledPattern.parse_wildcardRegex _, Nat.lt_of_not_le hbig, rfl⟩

/-- A short pattern is well within the limit. -/
example : (CompiledPattern.wildcardExpr ['a', '*']).memory ≤ Regex.sizeLimit := by
  decide +kernel

end AccessDecision
