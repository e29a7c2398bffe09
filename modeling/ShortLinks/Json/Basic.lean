/-!
JSON values. Numbers are kept in two classes, the plain natural numbers and all other literals,
because no record here has fields of another kind; a string literal that escapes half of a
surrogate pair is no text, and is kept as it was written.
-/

namespace ShortLinks

/-- The value of a string literal. -/
inductive Json.Literal where
  /-- A literal that stands for a text. -/
  | whole (text : String)
  /-- A literal with an unpaired surrogate: what stands between its quotes. -/
  | torn (source : List Char)
deriving DecidableEq, Inhabited

/-- A JSON value; an object keeps its members in order, repeated names included. -/
inductive Json where
  | null
  | bool (b : Bool)
  /-- A number written with digits alone. -/
  | natural (n : Nat)
  /-- Any other number, as it was written. -/
  | number (source : List Char)
  | string (s : Json.Literal)
  | array (items : List Json)
  | object (members : List (Json.Literal × Json))
deriving Inhabited

namespace Json

/-- The string value of a text. -/
def text (s : String) : Json := .string (.whole s)

/-- An object from named members. -/
def record (members : List (String × Json)) : Json :=
  .object (members.map fun m => (.whole m.1, m.2))

/-! ### Reading values of known kinds -/

/-- The text of a string value. -/
def text? : Json → Option String
  | .string (.whole s) => some s
  | _ => none

/-- The truth value of a boolean. -/
def bool? : Json → Option Bool
  | .bool b => some b
  | _ => none

/-- A natural number below `bound`. -/
def natural? (bound : Nat) : Json → Option Nat
  | .natural n => if n < bound then some n else none
  | _ => none

/-- The texts of an array of strings. -/
def texts? : Json → Option (List String)
  | .array items => items.mapM text?
  | _ => none

/-- The members of an object whose names are texts. -/
def members : Json → List (String × Json)
  | .object ms => ms.filterMap fun m =>
      match m.1 with
      | .whole name => some (name, m.2)
      | .torn _ => none
  | _ => []

/-- The first member of a name; one that is `null` counts as missing. -/
def given? (j : Json) (name : String) : Option Json :=
  match j.members.lookup name with
  | some .null => none
  | found => found

/-- `null` stands for no value. -/
def optional? {α : Type} (read : Json → Option α) : Json → Option (Option α)
  | .null => some none
  | j => (read j).map some

/-! ### Reading records

A record is written as an object, whose unknown members are ignored and whose known members may
stand once each, or as an array of its fields in their order, from which fields at the end may
be missing. Either way it becomes a list of named values, `Fields`. -/

/-- The known fields that are present, with their values. -/
abbrev Fields := List (String × Json)

/-- The members with known names; `none` if a name is no text. -/
def knownMembers (names : List String) : List (Literal × Json) → Option Fields
  | [] => some []
  | (.torn _, _) :: _ => none
  | (.whole name, value) :: rest =>
      (knownMembers names rest).map fun known =>
        if names.contains name then (name, value) :: known else known

/-- No name stands twice. -/
def Fields.distinct : Fields → Bool
  | [] => true
  | (name, _) :: rest => !rest.any (·.1 == name) && Fields.distinct rest

/-- The fields of a record with these names. -/
def fields? (names : List String) : Json → Option Fields
  | .array items => if items.length ≤ names.length then some (names.zip items) else none
  | .object members => (knownMembers names members).filter Fields.distinct
  | _ => none

/-- The value of a field that must be present. -/
def Fields.required? {α : Type} (fs : Fields) (name : String) (read : Json → Option α) :
    Option α :=
  (fs.lookup name).bind read

/-- The value of a field that has a default. -/
def Fields.defaulted? {α : Type} (fs : Fields) (name : String) (read : Json → Option α)
    (default : α) : Option α :=
  match fs.lookup name with
  | none => some default
  | some value => read value

end Json

end ShortLinks
