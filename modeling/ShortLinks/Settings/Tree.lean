import ShortLinks.Settings.Scalar
import ShortLinks.Toml.Basic

/-!
Settings before their meaning is known: a tree of tables and lists with single values at its
ends. Trees of several sources are laid over each other, so that a later source wins wherever
both have a value.
-/

namespace ShortLinks

/-- Where a value was given. -/
inductive Origin where
  | file (path : String)
  | environment
deriving DecidableEq, Inhabited

/-- What a message calls an origin. -/
def Origin.described : Origin → String
  | .file path => path
  | .environment => "the environment"

/-- A tree of settings. -/
inductive SettingTree where
  /-- Nothing: a place in a list that no source has filled. -/
  | absent
  | scalar (value : Scalar) (origin : Origin)
  /-- A list; one that only grew because a variable names a place in it has no origin. -/
  | list (items : List SettingTree) (origin : Option Origin)
  | table (entries : List (String × SettingTree))
deriving Inhabited

namespace SettingTree

/-- The entries of a table, with distinct names. -/
abbrev Entries := List (String × SettingTree)

/-- The entries of a tree that is a table. -/
def entries : SettingTree → Entries
  | .table es => es
  | _ => []

/-- The entries with a new tree under a name. -/
def put (name : String) (tree : SettingTree) (es : Entries) : Entries :=
  if es.any (·.1 = name) then es.map fun e => if e.1 = name then (name, tree) else e
  else es ++ [(name, tree)]

/-- The tree under a name. -/
def child (es : Entries) (name : String) : SettingTree := (es.lookup name).getD .absent

mutual

/-- A tree laid over an older one: tables are joined, everything else replaces what was there. -/
def cover (older : SettingTree) : SettingTree → SettingTree
  | .table es => .table (coverEntries older.entries es)
  | .absent => .absent
  | .scalar value origin => .scalar value origin
  | .list items origin => .list items origin

/-- Entries laid over older ones. -/
def coverEntries (older : Entries) : Entries → Entries
  | [] => older
  | (name, tree) :: rest => coverEntries (put name (cover (child older name) tree) older) rest

end

/-! ### Places in a tree -/

/-- One step down a tree. -/
inductive Step where
  | name (n : String)
  /-- A place in a list; negative places count from its end. -/
  | index (i : Int)
deriving DecidableEq

/-- The items of a tree that is a list. -/
def items : SettingTree → List SettingTree × Option Origin
  | .list xs origin => (xs, origin)
  | _ => ([], none)

/-- The items with enough absent ones that the place exists, and the place. -/
def makeRoom (xs : List SettingTree) (i : Int) : List SettingTree × Nat :=
  let fromStart := if i < 0 then i + xs.length else i
  if fromStart < 0 then (List.replicate (-fromStart).toNat .absent ++ xs, 0)
  else (xs ++ List.replicate (fromStart.toNat + 1 - xs.length) .absent, fromStart.toNat)

/-- The tree with another one laid over the place at the end of a path. Whatever stands in the way
is replaced. -/
def lay (new : SettingTree) : List Step → SettingTree → SettingTree
  | [], tree => cover tree new
  | .name n :: rest, tree => .table (put n (lay new rest (child tree.entries n)) tree.entries)
  | .index i :: rest, tree =>
      let (xs, place) := makeRoom tree.items.1 i
      .list (xs.modify place (lay new rest)) tree.items.2

/-- The characters of names in a written path. -/
def isNameChar (c : Char) : Bool := c.isAlphanum || c = '_' || c = '-'

/-- The place that a text in brackets names. -/
def place? (cs : List Char) : Option Int :=
  match cs with
  | '-' :: digits => (Text.natural? 10 digits).map fun n => -(n : Int)
  | digits => (Text.natural? 10 digits).map fun n => (n : Int)

/-- The steps behind the first name of a written path: a dot and a name, or a place in brackets.
The first argument bounds their number; the length of the text is enough. -/
def steps? : Nat → List Char → Option (List Step)
  | _, [] => some []
  | fuel + 1, '.' :: cs =>
      let (name, rest) := cs.span isNameChar
      if name.isEmpty then none
      else (steps? fuel rest).map (.name (String.ofList name) :: ·)
  | fuel + 1, '[' :: cs => do
      let (inside, rest) := cs.span (· ≠ ']')
      let i ← place? inside
      if rest.isEmpty then none else (steps? fuel (rest.drop 1)).map (.index i :: ·)
  | _, _ => none

/-- The path that a name at the top of a source stands for: names that dots part, with places in
brackets; any other text is one name. -/
def path (name : String) : List Step :=
  (steps? (name.length + 1) ('.' :: name.toList)).getD [.name name]

/-- A tree with the entries of a source laid over it. -/
def addSource (source : Entries) (tree : SettingTree) : SettingTree :=
  source.foldl (fun t e => lay e.2 (path e.1) t) tree

/-! ### Trees of documents -/

mutual

/-- The tree of a value in a document. -/
def ofToml (origin : Origin) : Toml → SettingTree
  | .bool b => .scalar (.bool b) origin
  | .integer n => .scalar (.integer n) origin
  | .float x => .scalar (.float x) origin
  | .moment t => .scalar (.text t) origin
  | .text s => .scalar (.text s) origin
  | .array xs => .list (ofTomlItems origin xs) (some origin)
  | .tables ts => .list (ofTomlTables origin ts) (some origin)
  | .table _ es => .table (ofTomlEntries origin es)

/-- The trees of several values. -/
def ofTomlItems (origin : Origin) : List Toml → List SettingTree
  | [] => []
  | x :: rest => ofToml origin x :: ofTomlItems origin rest

/-- The trees of several tables. -/
def ofTomlTables (origin : Origin) : List (List (String × Toml)) → List SettingTree
  | [] => []
  | t :: rest => .table (ofTomlEntries origin t) :: ofTomlTables origin rest

/-- The entries of a table. -/
def ofTomlEntries (origin : Origin) : List (String × Toml) → Entries
  | [] => []
  | (name, x) :: rest => (name, ofToml origin x) :: ofTomlEntries origin rest

end

end SettingTree

end ShortLinks
