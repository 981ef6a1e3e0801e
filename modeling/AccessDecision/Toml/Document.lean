/-
  TOML documents and what may be defined twice

  A document is a tree of tables. A name is defined once; but a table that only
  came about because a longer name needed it may still get a header of its own,
  and one made by dotted names may get further dotted names. What a header has
  defined is closed to dotted names, and a value is closed to everything.

  Of the values only whole numbers are kept; of any other it is enough to know
  that it is there.
-/

namespace AccessDecision.Toml

/-- A value. -/
inductive Value where
  | integer (n : Int)
  | other
deriving DecidableEq, Repr

/-- How a table came about. -/
inductive Origin where
  /-- By a header of its own. -/
  | header
  /-- As a part of the name in some header. -/
  | implied
  /-- As a part of a dotted name. -/
  | dotted
deriving DecidableEq, Repr

/-- What a name stands for. -/
inductive Item where
  | value (v : Value)
  | table (origin : Origin) (entries : List (String × Item))
  /-- An array of tables, of which only the last can still change. -/
  | tables (last : List (String × Item))

/-- The entries of a table. -/
abbrev Entries := List (String × Item)

namespace Entries

/-- What a name stands for, if it is defined. -/
def find? (name : String) : Entries → Option Item
  | [] => none
  | (name', item) :: rest => if name' = name then some item else find? name rest

/-- Defines a name anew, in its old place if it has one. -/
def set (name : String) (item : Item) : Entries → Entries
  | [] => [(name, item)]
  | (name', item') :: rest =>
    if name' = name then (name, item) :: rest else (name', item') :: set name item rest

end Entries

/-- Changes the table that a path of names leads to; absent if the path cannot be
followed or the change fails. Missing tables are made with the given origin, and
where that is `dotted` the path may not pass a table with a header. The change is
told the origin of the table. -/
def descend (origin : Origin) (change : Origin → Entries → Option Entries) :
    (path : List String) → (here : Origin) → Entries → Option Entries
  | [], here, entries => change here entries
  | name :: path, _, entries =>
    match Entries.find? name entries with
    | none =>
      (descend origin change path origin []).map fun inner =>
        Entries.set name (.table origin inner) entries
    | some (.value _) => none
    | some (.tables last) =>
      (descend origin change path .header last).map fun inner =>
        Entries.set name (.tables inner) entries
    | some (.table o inner) =>
      if origin = .dotted ∧ o = .header then none
      else
        (descend origin change path o inner).map fun inner =>
          Entries.set name (.table o inner) entries

/-- Defines a name that has no definition yet. -/
def define (name : String) (item : Item) (entries : Entries) : Option Entries :=
  match Entries.find? name entries with
  | none => some (Entries.set name item entries)
  | some _ => none

/-- Sets a value under a dotted name in a table. The table it goes to has to be
the table itself or one that dotted names have made. -/
def setValue (path : List String) (name : String) (v : Value) (entries : Entries) :
    Option Entries :=
  descend .dotted
    (fun here inner =>
      if path.isEmpty ∨ here = .dotted then define name (.value v) inner else none)
    path .header entries

/-- Opens the table of a header. A table that is only implied becomes that of the
header. -/
def openTable (name : String) (entries : Entries) : Option Entries :=
  match Entries.find? name entries with
  | none => some (Entries.set name (.table .header []) entries)
  | some (.table .implied inner) => some (Entries.set name (.table .header inner) entries)
  | some _ => none

/-- Opens the next table of an array. -/
def openElement (name : String) (entries : Entries) : Option Entries :=
  match Entries.find? name entries with
  | none | some (.tables _) => some (Entries.set name (.tables []) entries)
  | some _ => none

/-- A document while it is read: its entries, and the path of the table that is
open. -/
structure Document where
  entries : Entries
  current : List String

namespace Document

/-- The document at its start, where the outermost table is open. -/
def start : Document := ⟨[], []⟩

/-- Opens what a header names. -/
def openHeader (d : Document) (array : Bool) (path : List String) (name : String) :
    Option Document :=
  (descend .implied
    (fun _ inner => if array then openElement name inner else openTable name inner)
    path .header d.entries).map fun entries => ⟨entries, path ++ [name]⟩

/-- Sets a value in the table that is open. -/
def set (d : Document) (path : List String) (name : String) (v : Value) : Option Document :=
  (descend .implied (fun _ inner => setValue path name v inner) d.current .header
    d.entries).map fun entries => ⟨entries, d.current⟩

end Document

end AccessDecision.Toml
