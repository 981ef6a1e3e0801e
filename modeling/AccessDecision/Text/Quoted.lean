import AccessDecision.Unicode.LaterTable
import AccessDecision.Unicode.PropertyTable

/-
  Quoted text in messages

  A text is shown between double quotes. Quotes, backslashes and the usual
  controls are written as short escapes; what a reader could not see or would
  see joined to its neighbour is written as a code point in braces.
-/

namespace AccessDecision.Text

/-- The categories of characters that cannot be seen. -/
def unseen : List Unicode.Category := [.cc, .cf, .cs, .co, .cn, .zl, .zp, .zs]

/-- Whether a character can be seen. Fillers are letters, but may be left out when
text is shown. -/
def isSeen (c : Char) : Bool :=
  c == ' ' ||
    (!unseen.contains (Unicode.category c) && !Unicode.defaultIgnorableCodePoint.contains c) ||
    Unicode.inRanges c.toNat Unicode.laterAssigned

/-- Whether a character joins the one before it. The halfwidth sound marks, which
are modifier letters, take a place of their own. -/
def isExtender (c : Char) : Bool :=
  (Unicode.graphemeExtend.contains c && Unicode.category c != .lm) ||
    Unicode.inRanges c.toNat Unicode.laterExtend

/-- Whether a character is shown as it is. -/
def isPrintable (c : Char) : Bool := isSeen c && !isExtender c

/-- The digits of a number in lower-case hexadecimal. -/
def hex (n : Nat) : List Char := Nat.toDigits 16 n

/-- One character between quotes. -/
def quoteChar (c : Char) : List Char :=
  match c with
  | '"' => ['\\', '"']
  | '\\' => ['\\', '\\']
  | '\n' => ['\\', 'n']
  | '\r' => ['\\', 'r']
  | '\t' => ['\\', 't']
  | '\x00' => ['\\', '0']
  | c => if isPrintable c then [c] else ['\\', 'u', '\x7b'] ++ hex c.toNat ++ ['\x7d']

/-- A text between quotes. -/
def quote (s : String) : String :=
  String.ofList ('"' :: (s.toList.flatMap quoteChar ++ ['"']))

end AccessDecision.Text
