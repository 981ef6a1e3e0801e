/-
  Literal text in expressions

  Writing a text so that an expression matches it and nothing else: every
  character that expressions give a meaning gets a backslash in front.
-/

namespace AccessDecision.Regex

/-- The characters that mean something in an expression, or may come to. -/
def isMeta (c : Char) : Bool :=
  ['\\', '.', '+', '*', '?', '(', ')', '|', '[', ']', '\x7b', '\x7d', '^', '$', '#', '&', '-',
    '~'].contains c

/-- A character as it is written to stand for itself. -/
def escapeChar (c : Char) : List Char := if isMeta c then ['\\', c] else [c]

/-- The expression text that stands for the given characters. -/
def escape (cs : List Char) : List Char := cs.flatMap escapeChar

end AccessDecision.Regex
