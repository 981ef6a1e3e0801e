import AccessDecision.MatcherConfig
import AccessDecision.Pattern.Compiled

/-
  Templates

  A template is literal text with expressions in it, which stand between two
  delimiters. Delimiters inside an expression nest and belong to it. The literal
  text is escaped, the expressions are kept as they are, each in a group, and
  each has to be an expression by itself.

  A template is read character by character. Where its expressions lie among the
  bytes of its text is found by `delimiterSpans`.
-/

namespace AccessDecision

/-- A template: literal text, and then fragments each of which literal text
follows. -/
structure Template where
  head : List Char
  rest : List (List Char × List Char)
deriving DecidableEq, Repr

namespace Template

/-- What has been read of a template: the literal texts and fragments before the
current one, latest first, the characters of the current one, latest first, and
how many delimiters are open. -/
structure Progress where
  /-- The fragments with the literal text before each of them. -/
  done : List (List Char × List Char)
  /-- The literal text before the current fragment, if one is open. -/
  literal : List Char
  current : List Char
  level : Nat

namespace Progress

/-- The start of a template. -/
def start : Progress := ⟨[], [], [], 0⟩

/-- Takes one character; absent if it closes what was not opened. -/
def step (opening closing : Char) (p : Progress) (c : Char) : Option Progress :=
  if c = opening then
    match p.level with
    | 0 => some { p with literal := p.current.reverse, current := [], level := 1 }
    | level => some { p with current := c :: p.current, level := level + 1 }
  else if c = closing then
    match p.level with
    | 0 => none
    | 1 => some ⟨(p.literal, p.current.reverse) :: p.done, [], [], 0⟩
    | level + 1 => some { p with current := c :: p.current, level := level }
  else some { p with current := c :: p.current }

/-- Puts fragments that are done, latest first, in front of the text after
them. -/
def assemble (last : List Char) (done : List (List Char × List Char)) : Template :=
  done.foldl (fun t (literal, fragment) => ⟨literal, (fragment, t.head) :: t.rest⟩) ⟨last, []⟩

/-- The whole template; absent if a delimiter is still open. -/
def finish (p : Progress) : Option Template :=
  if p.level = 0 then some (assemble p.current.reverse p.done) else none

end Progress

/-- The template that a text is; absent if its delimiters do not balance. -/
def ofText? (opening closing : Char) (cs : List Char) : Option Template :=
  (cs.foldlM (Progress.step opening closing) Progress.start).bind Progress.finish

/-- A scan for spans: how many delimiters are open, where the outermost of them was
opened, and the spans so far, latest first. -/
structure SpanScan where
  level : Nat
  start : Nat
  spans : List (Nat × Nat)

/-- Takes the byte at a position; absent if it closes what was not opened. -/
def SpanScan.step (opening closing : UInt8) (s : SpanScan) (byte : UInt8 × Nat) :
    Option SpanScan :=
  if byte.1 = opening then
    match s.level with
    | 0 => some { s with level := 1, start := byte.2 }
    | level => some { s with level := level + 1 }
  else if byte.1 = closing then
    match s.level with
    | 0 => none
    | 1 => some { s with level := 0, spans := (s.start, byte.2 + 1) :: s.spans }
    | level + 1 => some { s with level := level }
  else some s

/-- The spans between outermost delimiters, each from its opening delimiter to behind
its closing one; absent if the delimiters do not balance. -/
def delimiterSpans (opening closing : UInt8) (bytes : List UInt8) : Option (List (Nat × Nat)) :=
  (bytes.zipIdx.foldlM (SpanScan.step opening closing) ⟨0, 0, []⟩).bind fun s =>
    if s.level = 0 then some s.spans.reverse else none

/-- The text of a template. -/
def text (opening closing : Char) (t : Template) : List Char :=
  t.head ++ t.rest.flatMap fun (fragment, literal) =>
    opening :: (fragment ++ closing :: literal)

/-- The fragments. -/
def fragments (t : Template) : List (List Char) := t.rest.map (·.1)

/-- The expression of a template. -/
def regex (t : Template) : List Char :=
  '^' :: (Regex.escape t.head ++ (t.rest.flatMap fun (fragment, literal) =>
    '(' :: (fragment ++ ')' :: Regex.escape literal)) ++ ['$'])

/-- The expression of a fragment by itself. -/
def fragmentRegex (fragment : List Char) : List Char := '^' :: (fragment ++ ['$'])

/-- The first of some delimiters that is no ASCII character. -/
def foreignDelimiter? (delimiters : List UInt8) : Option UInt8 :=
  delimiters.find? fun b => 0x80 ≤ b

/-- Fails with the first fragment that is no expression by itself. -/
def checkFragments : List (List Char) → Except PolicyError Unit
  | [] => .ok ()
  | fragment :: rest =>
    match Regex.compile (fragmentRegex fragment) with
    | .error cause => .error (.compile cause)
    | .ok _ => checkFragments rest

/-- Compiles a template. The delimiters come before the structure, and the
structure before the fragments. -/
def compileWithBudget (template : String) (opening closing : UInt8) (budget : Time.Duration) :
    Except PolicyError CompiledPattern :=
  match foreignDelimiter? [opening, closing] with
  | some byte => .error (.invalidDelimiter byte)
  | none =>
    match ofText? (Char.ofNat opening.toNat) (Char.ofNat closing.toNat) template.toList with
    | none => .error (.unbalancedDelimiters template)
    | some t =>
      match checkFragments t.fragments with
      | .error e => .error e
      | .ok () => CompiledPattern.ofExpression template t.regex budget

/-- Compiles a template with the default time for an evaluation. -/
def compile (template : String) (opening closing : UInt8) : Except PolicyError CompiledPattern :=
  compileWithBudget template opening closing MatcherConfig.default.matchTimeout

end Template

end AccessDecision
