/-
  General categories

  Every code point has exactly one of thirty general categories. Larger
  classes, such as the letters, are unions of categories.
-/

namespace AccessDecision.Unicode

/-- A general category, under its two-letter abbreviation. -/
inductive Category where
  | lu | ll | lt | lm | lo
  | mn | mc | me
  | nd | nl | no
  | pc | pd | ps | pe | pi | pf | po
  | sm | sc | sk | so
  | zs | zl | zp
  | cc | cf | cs | co | cn
deriving DecidableEq, Repr

namespace Category

/-- All letters. -/
def letters : List Category := [lu, ll, lt, lm, lo]

/-- All combining marks. -/
def marks : List Category := [mn, mc, me]

/-- All numbers. -/
def numbers : List Category := [nd, nl, no]

/-- All punctuation. -/
def punctuation : List Category := [pc, pd, ps, pe, pi, pf, po]

/-- All symbols. -/
def symbols : List Category := [sm, sc, sk, so]

/-- All separators. -/
def separators : List Category := [zs, zl, zp]

/-- Controls, format characters, surrogates, private use and unassigned. -/
def others : List Category := [cc, cf, cs, co, cn]

/-- All categories. -/
def all : List Category :=
  letters ++ marks ++ numbers ++ punctuation ++ symbols ++ separators ++ others

/-- The names of every category and of every union of categories that has a
name, in lower case and without separators. The surrogates are no characters, so
their category is no set of characters and has no name here. -/
def named : List (List String × List Category) := [
  (["lu", "uppercaseletter"], [lu]),
  (["ll", "lowercaseletter"], [ll]),
  (["lt", "titlecaseletter"], [lt]),
  (["lc", "casedletter"], [lu, ll, lt]),
  (["lm", "modifierletter"], [lm]),
  (["lo", "otherletter"], [lo]),
  (["l", "letter"], letters),
  (["mn", "nonspacingmark"], [mn]),
  (["mc", "spacingmark"], [mc]),
  (["me", "enclosingmark"], [me]),
  (["m", "mark", "combiningmark"], marks),
  (["nd", "decimalnumber", "digit"], [nd]),
  (["nl", "letternumber"], [nl]),
  (["no", "othernumber"], [no]),
  (["n", "number"], numbers),
  (["pc", "connectorpunctuation"], [pc]),
  (["pd", "dashpunctuation"], [pd]),
  (["ps", "openpunctuation"], [ps]),
  (["pe", "closepunctuation"], [pe]),
  (["pi", "initialpunctuation"], [pi]),
  (["pf", "finalpunctuation"], [pf]),
  (["po", "otherpunctuation"], [po]),
  (["p", "punctuation", "punct"], punctuation),
  (["sm", "mathsymbol"], [sm]),
  (["sc", "currencysymbol"], [sc]),
  (["sk", "modifiersymbol"], [sk]),
  (["so", "othersymbol"], [so]),
  (["s", "symbol"], symbols),
  (["zs", "spaceseparator"], [zs]),
  (["zl", "lineseparator"], [zl]),
  (["zp", "paragraphseparator"], [zp]),
  (["z", "separator"], separators),
  (["cc", "control", "cntrl"], [cc]),
  (["cf", "format"], [cf]),
  (["co", "privateuse"], [co]),
  (["cn", "unassigned"], [cn]),
  (["c", "other"], others)]

end Category

end AccessDecision.Unicode
