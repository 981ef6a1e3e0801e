import AccessDecision.Unicode.Case
import AccessDecision.Unicode.Name

/-
  Sets of characters in an expression

  A set is kept as it was written: ranges and named sets under union,
  intersection, difference and complement. Closing a set under case is an
  operation of its own, so `[^a]` and `(?i)[^a]` stay apart. `contains` answers
  for one character; `extent` lists the boundaries of the whole set.
-/

namespace AccessDecision.Regex

/-- A set of characters. -/
inductive CharSet where
  | none
  | range (lo hi : Char)
  | named (s : Unicode.CodeSet)
  | union (a b : CharSet)
  | inter (a b : CharSet)
  | diff (a b : CharSet)
  | symDiff (a b : CharSet)
  | compl (a : CharSet)
  /-- All characters whose case orbit meets the set. -/
  | foldCase (a : CharSet)
  /-- The set and the other case of its ASCII letters. -/
  | foldAscii (a : CharSet)

namespace CharSet

/-- The other case of an ASCII letter; any other character stays. -/
def swapAscii (c : Char) : Char :=
  if c.isUpper then c.toLower else c.toUpper

/-- Membership. -/
def contains : CharSet → Char → Bool
  | none, _ => false
  | range lo hi, c => lo ≤ c && c ≤ hi
  | named s, c => s.contains c
  | union a b, c => a.contains c || b.contains c
  | inter a b, c => a.contains c && b.contains c
  | diff a b, c => a.contains c && !b.contains c
  | symDiff a b, c => a.contains c != b.contains c
  | compl a, c => !a.contains c
  | foldCase a, c => (Unicode.orbit c).any a.contains
  | foldAscii a, c => a.contains c || a.contains (swapAscii c)

/-- The set of one character. -/
def single (c : Char) : CharSet := range c c

/-- All characters. -/
def any : CharSet := compl none

/-- The union of a list of sets. -/
def unions : List CharSet → CharSet
  | [] => none
  | [a] => a
  | a :: rest => union a (unions rest)

/-- The complement if `negated`, else the set. -/
def negateIf (negated : Bool) (a : CharSet) : CharSet :=
  if negated then compl a else a

/-- Decimal digits of all scripts. -/
def digit : CharSet := named (.ofCategories [.nd])

/-- White space. -/
def space : CharSet := named Unicode.whiteSpace

/-- Characters of words: letters, marks, decimal digits, connectors and the
characters that control joining. -/
def word : CharSet :=
  unions [named Unicode.alphabetic, named Unicode.joinControl,
    named (.ofCategories (.nd :: .pc :: Unicode.Category.marks))]

/-- The ASCII digits. -/
def asciiDigit : CharSet := range '0' '9'

/-- The ASCII white space: tab to carriage return, and the blank. -/
def asciiSpace : CharSet := union (range '\t' '\r') (single ' ')

/-- The ASCII letters and digits and the underscore. -/
def asciiWord : CharSet :=
  unions [range '0' '9', range 'A' 'Z', single '_', range 'a' 'z']

/-- The ASCII sets that a bracket names as `[:name:]`. -/
def asciiNamed? : List Char → Option CharSet
  | ['a', 'l', 'n', 'u', 'm'] => some (unions [range '0' '9', range 'A' 'Z', range 'a' 'z'])
  | ['a', 'l', 'p', 'h', 'a'] => some (union (range 'A' 'Z') (range 'a' 'z'))
  | ['a', 's', 'c', 'i', 'i'] => some (range '\x00' '\x7f')
  | ['b', 'l', 'a', 'n', 'k'] => some (union (single '\t') (single ' '))
  | ['c', 'n', 't', 'r', 'l'] => some (union (range '\x00' '\x1f') (single '\x7f'))
  | ['d', 'i', 'g', 'i', 't'] => some asciiDigit
  | ['g', 'r', 'a', 'p', 'h'] => some (range '!' '~')
  | ['l', 'o', 'w', 'e', 'r'] => some (range 'a' 'z')
  | ['p', 'r', 'i', 'n', 't'] => some (range ' ' '~')
  | ['p', 'u', 'n', 'c', 't'] =>
    some (unions [range '!' '/', range ':' '@', range '[' '\x60', range '\x7b' '~'])
  | ['s', 'p', 'a', 'c', 'e'] => some asciiSpace
  | ['u', 'p', 'p', 'e', 'r'] => some (range 'A' 'Z')
  | ['w', 'o', 'r', 'd'] => some asciiWord
  | ['x', 'd', 'i', 'g', 'i', 't'] => some (unions [range '0' '9', range 'A' 'F', range 'a' 'f'])
  | _ => Option.none

/-- Whether the set holds a code point from U+0080 to U+00FF, which is a byte
but no character when a set is read as a set of bytes. -/
def hasHighByte (a : CharSet) : Bool :=
  (List.range 0x80).any fun n => a.contains (Char.ofNat (0x80 + n))

/-- The set by its boundaries. -/
def extent : CharSet → Unicode.Extent
  | none => .none
  | range lo hi => .ofRanges [(lo.toNat, hi.toNat)]
  | named s => s.extent
  | union a b => a.extent.union b.extent
  | inter a b => a.extent.inter b.extent
  | diff a b => a.extent.diff b.extent
  | symDiff a b => a.extent.symDiff b.extent
  | compl a => a.extent.compl
  | foldCase a => a.extent.foldCase
  | foldAscii a =>
    let s := a.extent
    s.union
      (.ofCodes ((List.range 0x80).filter fun n => s.contains (swapAscii (Char.ofNat n)).toNat))

end CharSet

end AccessDecision.Regex
