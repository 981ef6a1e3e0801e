import AccessDecision.Unicode.AgeTable
import AccessDecision.Unicode.BreakTable
import AccessDecision.Unicode.PropertyTable
import AccessDecision.Unicode.ScriptExtensionTable

/-
  Sets of characters by name

  Names are matched loosely: case, blanks, hyphens and underscores do not count,
  nor does a leading "is". A bare name is a property, a general category or a
  script, looked for in this order; a name with a value says what the value is
  one of.
-/

namespace AccessDecision.Unicode

/-- The ASCII characters of a name in lower case, without blanks, hyphens and
underscores. -/
def bareName (name : List Char) : List Char :=
  (name.filter fun c => c != ' ' && c != '_' && c != '-' && c.toNat < 0x80).map Char.toLower

/-- The form under which a name is looked up. What is left of "isc" once "is" is
dropped would mean something else, so it stays whole. -/
def looseName : List Char → String
  | i :: s :: rest =>
    if i.toLower = 'i' ∧ s.toLower = 's' then
      match bareName rest with
      | ['c'] => "isc"
      | key => String.ofList key
    else String.ofList (bareName (i :: s :: rest))
  | name => String.ofList (bareName name)

/-- The entry of a table that carries the name. -/
def entryNamed? {α : Type} (name : String) (table : List (List String × α)) : Option α :=
  (table.find? fun entry => entry.1.contains name).map (·.2)

/-- The set of a general category, given its loose name. -/
def categoryNamed? (name : String) : Option CodeSet :=
  match name with
  | "any" => some (.ofRanges [(0, 0x10FFFF)])
  | "assigned" => some (.ofCategories (Category.all.filter (· != .cn)))
  | "ascii" => some (.ofRanges [(0, 0x7F)])
  | _ => (entryNamed? name Category.named).map .ofCategories

/-- The set of a script, given its loose name. -/
def scriptNamed? (name : String) : Option CodeSet :=
  (entryNamed? name scripts).map .ofRanges

/-- The set of the characters that a script uses, given its loose name. -/
def scriptExtendedNamed? (name : String) : Option CodeSet :=
  (entryNamed? name scriptExtensions).map .ofRanges

/-- The characters that the versions up to the one with the name have added, given
those that earlier versions had. -/
def addedUpTo? (name : String) (before : Extent) :
    List (List String × List (Nat × Nat)) → Option Extent
  | [] => none
  | (names, added) :: rest =>
    let all := before.union (.ofRanges added)
    if names.contains name then some all else addedUpTo? name all rest

/-- The set of the characters that were there in a version, given its loose
name. -/
def ageNamed? (name : String) : Option CodeSet :=
  (addedUpTo? name .none ages).map fun s => .ofRanges s.ranges

/-- The names that are both a category's and another property's, and mean the
category when they stand alone. -/
def categoryFirst : List String := ["cf", "sc", "lc"]

/-- The set that a name alone stands for. -/
def named? (name : List Char) : Option CodeSet :=
  let key := looseName name
  (if categoryFirst.contains key then none else entryNamed? key properties).or
    ((categoryNamed? key).or (scriptNamed? key))

/-- The set that a name with a value stands for. -/
def namedWithValue? (name value : List Char) : Option CodeSet :=
  let key := looseName value
  match looseName name with
  | "generalcategory" | "gc" => categoryNamed? key
  | "script" | "sc" => scriptNamed? key
  | "scriptextensions" | "scx" => scriptExtendedNamed? key
  | "age" => ageNamed? key
  | "graphemeclusterbreak" | "gcb" => entryNamed? key graphemeBreaks
  | "wordbreak" | "wb" => entryNamed? key wordBreaks
  | "sentencebreak" | "sb" => entryNamed? key sentenceBreaks
  | _ => none

end AccessDecision.Unicode
