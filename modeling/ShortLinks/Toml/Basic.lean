import ShortLinks.Number.Binary64

/-!
Values of TOML documents, and the rules by which a document may extend a table that it has
already begun. `Toml.assign?`, `Toml.openTable?` and `Toml.appendTable?` are the three ways in
which a document adds to its tables; each gives `none` where the document contradicts itself.
-/

namespace ShortLinks

/-- How a table came into being, which decides how it may be extended. -/
inductive Toml.Begun where
  /-- Between braces: never extended. -/
  | inBraces
  /-- By a header of its own. -/
  | byHeader
  /-- By the header of a table inside it. -/
  | byInnerHeader
  /-- By a key with dots. -/
  | byDottedKey
deriving DecidableEq, Inhabited

/-- A TOML value. -/
inductive Toml where
  | bool (b : Bool)
  | integer (n : Int)
  | float (x : Binary64)
  /-- A date, a time, or both, in normal form. -/
  | moment (text : String)
  | text (s : String)
  /-- Items between brackets. -/
  | array (items : List Toml)
  /-- Tables that headers in double brackets have begun, in order. -/
  | tables (items : List (List (String × Toml)))
  | table (begun : Toml.Begun) (entries : List (String × Toml))
deriving Inhabited

namespace Toml

/-- The entries of a table, with distinct names, in the order in which they were begun. -/
abbrev Entries := List (String × Toml)

/-- The entries with a new value for a name. -/
def Entries.set (entries : Entries) (name : String) (value : Toml) : Entries :=
  if entries.any (·.1 = name) then entries.map fun e => if e.1 = name then (name, value) else e
  else entries ++ [(name, value)]

/-- A change of the last of several tables. -/
def changeLast? (change : Entries → Option Entries) :
    List Entries → Option (List Entries)
  | [] => none
  | [last] => (change last).map fun changed => [changed]
  | first :: rest => (changeLast? change rest).map (first :: ·)

/-- A change of the table of a name, which a header may lead through: of several tables it is the
last one, and a missing table is begun. -/
def through? (change : Entries → Option Entries) (name : String) (entries : Entries) :
    Option Entries :=
  match entries.lookup name with
  | none => (change []).map fun inner => entries.set name (.table .byInnerHeader inner)
  | some (.table .inBraces _) => none
  | some (.table begun inner) =>
      (change inner).map fun changed => entries.set name (.table begun changed)
  | some (.tables items) =>
      (changeLast? change items).map fun changed => entries.set name (.tables changed)
  | some _ => none

/-- The entries with the table that a header names. -/
def openTable? : List String → Entries → Option Entries
  | [], _ => none
  | [name], entries =>
      match entries.lookup name with
      | none => some (entries.set name (.table .byHeader []))
      | some (.table .byInnerHeader inner) => some (entries.set name (.table .byHeader inner))
      | some _ => none
  | name :: rest, entries => through? (fun inner => openTable? rest inner) name entries

/-- The entries with one more of the tables that a header in double brackets names. -/
def appendTable? : List String → Entries → Option Entries
  | [], _ => none
  | [name], entries =>
      match entries.lookup name with
      | none => some (entries.set name (.tables [[]]))
      | some (.tables items) => some (entries.set name (.tables (items ++ [[]])))
      | some _ => none
  | name :: rest, entries => through? (fun inner => appendTable? rest inner) name entries

/-- The entries with a change of the table that the last header has named. -/
def within? (change : Entries → Option Entries) : List String → Entries → Option Entries
  | [], entries => change entries
  | name :: rest, entries => through? (fun inner => within? change rest inner) name entries

/-- The entries with a value under a key, whose names but the last lead through tables that only
keys with dots have begun. -/
def assign? (value : Toml) : List String → Entries → Option Entries
  | [], _ => none
  | [name], entries =>
      if entries.any (·.1 = name) then none else some (entries.set name value)
  | name :: rest, entries =>
      match entries.lookup name with
      | none => (assign? value rest []).map fun inner =>
          entries.set name (.table .byDottedKey inner)
      | some (.table .byDottedKey inner) => (assign? value rest inner).map fun changed =>
          entries.set name (.table .byDottedKey changed)
      | some (.table .byInnerHeader inner) =>
          if rest.length < 2 then none
          else (assign? value rest inner).map fun changed =>
            entries.set name (.table .byInnerHeader changed)
      | some _ => none

end Toml

end ShortLinks
