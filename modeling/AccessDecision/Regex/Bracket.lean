import AccessDecision.Regex.Escape

/-
  Bracketed sets

  A bracket holds characters, ranges, classes and brackets, joined by the
  operators for intersection, difference and symmetric difference, which all
  bind alike and from the left. Case and negation are applied bracket by bracket
  from the inside out.
-/

namespace AccessDecision.Regex

/-- A set and how deeply it nests, counted in brackets, operators and lists of
more than one item. -/
structure SetItem where
  set : CharSet
  depth : Nat

/-- An operator between sets. -/
inductive SetOp where
  | inter | diff | symDiff

/-- The union of the items read, latest first. -/
def SetItem.ofItems : List SetItem → SetItem
  | [item] => item
  | items =>
    { set := CharSet.unions (items.reverse.map (·.set))
      depth := if items.isEmpty then 0 else 1 + (items.map (·.depth)).foldl Nat.max 0 }

/-- What has been read of a bracket: the operand and operator on the left, if
any, and the items since, latest first. -/
structure Bracket where
  negated : Bool
  pending : Option (SetItem × SetOp)
  items : List SetItem

namespace Bracket

/-- The operands under the flags in force. -/
def operand (flags : Flags) (s : SetItem) : CharSet := foldUnder flags s.set

/-- The set read so far. -/
def value (flags : Flags) (b : Bracket) : SetItem :=
  let right := SetItem.ofItems b.items
  match b.pending with
  | none => right
  | some (left, op) =>
    let l := operand flags left
    let r := operand flags right
    { set := match op with
        | .inter => .inter l r
        | .diff => .diff l r
        | .symDiff => .symDiff l r
      depth := 1 + Nat.max left.depth right.depth }

/-- Adds an item. -/
def push (b : Bracket) (item : SetItem) : Bracket := { b with items := item :: b.items }

/-- Adds a set that does not nest. -/
def pushSet (b : Bracket) (s : CharSet) : Bracket := b.push ⟨s, 0⟩

/-- Adds an operator. -/
def pushOp (flags : Flags) (b : Bracket) (op : SetOp) : Bracket :=
  { b with pending := some (b.value flags, op), items := [] }

/-- The finished set. -/
def close (flags : Flags) (b : Bracket) : Except SyntaxError SetItem := do
  let v := b.value flags
  let s ← checkText flags (CharSet.negateIf b.negated (foldUnder flags v.set))
  .ok ⟨s, v.depth + 1⟩

end Bracket

/-- Reads what may stand at the start of a bracket: a sign that negates, and
hyphens or else a closing bracket that stand for themselves. -/
def readBracketStart (flags : Flags) (cs : List Char) : Except SyntaxError (Bracket × List Char) :=
  let cs := skipBlanks flags cs
  let (negated, cs) := match cs with
    | '^' :: rest => (true, skipBlanks flags rest)
    | _ => (false, cs)
  let rec hyphens : (fuel : Nat) → List SetItem → List Char → List SetItem × List Char
    | fuel + 1, items, '-' :: rest =>
      hyphens fuel (⟨.single '-', 0⟩ :: items) (skipBlanks flags rest)
    | _, items, cs => (items, cs)
  match hyphens cs.length [] cs with
  | ([], ']' :: rest) =>
    .ok (⟨negated, none, [⟨.single ']', 0⟩]⟩, skipBlanks flags rest)
  | (items, rest) => .ok (⟨negated, none, items⟩, rest)

/-- Reads `:name:]` after an opening bracket, if that is what follows. -/
def readAsciiClass? (cs : List Char) : Option (Bool × CharSet × List Char) :=
  match cs with
  | ':' :: rest =>
    let (negated, rest) := match rest with
      | '^' :: rest => (true, rest)
      | _ => (false, rest)
    let name := rest.takeWhile (· != ':')
    match rest.dropWhile (· != ':'), CharSet.asciiNamed? name with
    | ':' :: ']' :: rest, some s => some (negated, s, rest)
    | _, _ => none
  | _ => none

/-- Reads one end of a range: a character, or an escape sequence. -/
def readSetEnd (flags : Flags) : Reader Escaped
  | [] => .error .classUnclosed
  | '\\' :: rest => readEscape flags rest
  | c :: rest => .ok (.char c, rest)

/-- The character that an end of a range stands for. Without Unicode it has to be
an ASCII one. -/
def rangeEnd (flags : Flags) : Escaped → Except SyntaxError Char
  | .char c => if !flags.unicode && 0x80 ≤ c.toNat then .error .notText else .ok c
  | _ => .error .classRangeInvalid

/-- Reads a range, or a single item of a bracket. A hyphen before the closing
bracket or before another hyphen makes no range. -/
def readSetRange (flags : Flags) (cs : List Char) : Except SyntaxError (CharSet × List Char) := do
  let (first, rest) ← readSetEnd flags cs
  match skipBlanks flags rest with
  | [] => .error .classUnclosed
  | '-' :: more =>
    let next := peekPastBlanks flags more
    if next = some ']' ∨ next = some '-' then
      .ok (← item first, '-' :: more)
    else
      let (last, rest) ← readSetEnd flags (skipBlanks flags more)
      let lo ← rangeEnd flags first
      let hi ← rangeEnd flags last
      if lo ≤ hi then .ok (.range lo hi, rest) else .error .classRangeInvalid
  | rest => .ok (← item first, rest)
where
  item : Escaped → Except SyntaxError CharSet
    | .set s => .ok s
    | .look _ => .error .classItemInvalid
    | .char c => do .ok (.single (← rangeEnd flags (.char c)))

/-- Reads a bracket to its end, from inside. The fuel counts characters: every
round reads at least one. -/
def readBracket (flags : Flags) : (fuel : Nat) → Bracket → Reader SetItem
  | 0, _, _ => .error .classUnclosed
  | fuel + 1, b, cs =>
    match skipBlanks flags cs with
    | [] => .error .classUnclosed
    | '[' :: rest =>
      match readAsciiClass? rest with
      | some (negated, s, rest) => do
        let s ← checkText flags (CharSet.negateIf negated (foldUnder flags s))
        readBracket flags fuel (b.pushSet s) rest
      | none => do
        let (inner, rest) ← readBracketStart flags rest
        let (item, rest) ← readBracket flags fuel inner rest
        readBracket flags fuel (b.push item) rest
    | ']' :: rest => do .ok (← b.close flags, rest)
    | '&' :: '&' :: rest => readBracket flags fuel (b.pushOp flags .inter) rest
    | '-' :: '-' :: rest => readBracket flags fuel (b.pushOp flags .diff) rest
    | '~' :: '~' :: rest => readBracket flags fuel (b.pushOp flags .symDiff) rest
    | cs => do
      let (s, rest) ← readSetRange flags cs
      readBracket flags fuel (b.pushSet s) rest

end AccessDecision.Regex
