/-
  Cutting text at a separator

  A text with `n` separators has `n + 1` fields, some of which may be empty.
-/

namespace AccessDecision.Text

/-- Puts a character in front of the first field, or starts a field before it if
the character is the separator. -/
def consField (sep c : Char) : List (List Char) → List (List Char)
  | [] => [[c]]
  | field :: rest => if c = sep then [] :: field :: rest else (c :: field) :: rest

/-- The fields between the separators. -/
def fields (sep : Char) (cs : List Char) : List (List Char) :=
  cs.foldr (consField sep) [[]]

/-- The text with its fields joined again. -/
def joinFields (sep : Char) : List (List Char) → List Char
  | [] => []
  | [field] => field
  | field :: rest => field ++ sep :: joinFields sep rest

/-- Cuts at the first separator, if there is one. -/
def cutAt (sep : Char) (cs : List Char) : Option (List Char × List Char) :=
  match cs.dropWhile (· != sep) with
  | [] => none
  | _ :: rest => some (cs.takeWhile (· != sep), rest)

/-- Cuts at the last separator, if there is one. -/
def cutAtLast (sep : Char) (cs : List Char) : Option (List Char × List Char) :=
  (cutAt sep cs.reverse).map fun (back, front) => (front.reverse, back.reverse)

/-- The value of a text of decimal digits; absent if it is empty or holds
anything else. -/
def decimal? (cs : List Char) : Option Nat :=
  if !cs.isEmpty && cs.all Char.isDigit then
    some (cs.foldl (fun n c => n * 10 + (c.toNat - '0'.toNat)) 0)
  else none

end AccessDecision.Text
