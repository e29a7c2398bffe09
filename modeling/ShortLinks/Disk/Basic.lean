import ShortLinks.Database.Tables
import ShortLinks.Disk.Errno
import ShortLinks.Text.Cut
import Std.Data.ExtTreeMap

/-!
The disk, as far as the service sees it: directories, files and databases under absolute names.
A path is resolved name by name, as the system does it, so that a missing directory, a file in
the place of one, or a name that is too long is refused with the system's own text. Whatever else
the system may refuse is left to the field `refuses`.

There are no links on the disk, neither symbolic nor hard ones: what stands under one name is
changed through that name only.
-/

namespace ShortLinks

/-- Why the system refuses a call. -/
inductive IoFailure where
  /-- An error number of the system. -/
  | os (number : Nat)
  /-- The content is no text. -/
  | notText
  /-- The path holds a character that no path may hold. -/
  | nulInPath
deriving DecidableEq

namespace IoFailure

/-- No such file or directory. -/
def noEntry : IoFailure := .os 2

/-- Something is in the place of a file that should be new. -/
def alreadyThere : IoFailure := .os 17

/-- A file is in the place of a directory. -/
def notDirectory : IoFailure := .os 20

/-- A directory is in the place of a file. -/
def isDirectory : IoFailure := .os 21

/-- A name or a path is too long. -/
def nameTooLong : IoFailure := .os 36

/-- The text of a refusal. -/
def text : IoFailure → String
  | .os number => errnoText number
  | .notText => "stream did not contain valid UTF-8"
  | .nulInPath => "file name contained an unexpected NUL byte"

end IoFailure

/-- The content of a file. -/
inductive Content where
  | text (s : String)
  /-- Bytes that are no UTF-8 text. -/
  | binary (bytes : List UInt8)
deriving Inhabited

/-- The content with a text behind it. -/
def Content.append : Content → String → Content
  | .text s, more => .text (s ++ more)
  | .binary bytes, more => .binary (bytes ++ more.toUTF8.toList)

/-- What a name on the disk stands for. -/
inductive Entry where
  | file (content : Content)
  | directory
  | database (tables : Database)
deriving Inhabited

/-- The calls that the system may refuse for reasons of its own. -/
inductive DiskCall where
  | read (path : String)
  | append (path : String)
  | write (path : String)
  | rename (source target : String)
deriving DecidableEq

/-- A disk: its entries under absolute names, which begin with a slash and do not end in one; the
root is the empty name. -/
structure Disk where
  entries : Std.ExtTreeMap String Entry := ∅
  /-- The directory that relative paths start from. -/
  here : String := ""
  /-- What is refused although the entries would allow it. -/
  refuses : DiskCall → Option IoFailure := fun _ => none

namespace Disk

/-! ### Paths -/

/-- The name of the directory that an absolute name stands in. -/
def parentName (name : String) : String :=
  String.ofList ((name.toList.reverse.dropWhile (· ≠ '/')).drop 1).reverse

/-- The entry of an absolute name; the root is a directory. -/
def entry? (d : Disk) (name : String) : Option Entry :=
  if name.isEmpty then some .directory else d.entries[name]?

/-- The directory that one more name leads to. -/
def enter (d : Disk) (dir name : String) : Except IoFailure String :=
  if name = "" ∨ name = "." then .ok dir
  else if name = ".." then .ok (parentName dir)
  else if name.utf8ByteSize > 255 then .error .nameTooLong
  else
    match d.entry? (dir ++ "/" ++ name) with
    | some .directory => .ok (dir ++ "/" ++ name)
    | some _ => .error .notDirectory
    | none => .error .noEntry

/-- The names between the slashes of a path. -/
def names (path : String) : List String :=
  (Text.cut (· = '/') path.toList).map String.ofList

/-- Where a path leads to: an absolute name, and whether it can only be a directory. -/
structure Place where
  name : String
  onlyDirectory : Bool

/-- The place of the last name of a path in a directory. -/
def lastPlace (d : Disk) (dir last : String) : Except IoFailure Place :=
  if last = "" ∨ last = "." ∨ last = ".." then
    (d.enter dir last).map fun name => ⟨name, true⟩
  else if last.utf8ByteSize > 255 then .error .nameTooLong
  else .ok ⟨dir ++ "/" ++ last, false⟩

/-- The place of the names of a path, from a directory on; a slash at the end means a
directory. -/
def placeFrom (d : Disk) (dir : String) : List String → Except IoFailure Place
  | [] => .ok ⟨dir, true⟩
  | [last] => d.lastPlace dir last
  | name :: rest =>
      if rest.all (·.isEmpty) then
        (d.lastPlace dir name).map fun place => { place with onlyDirectory := true }
      else
        match d.enter dir name with
        | .ok inner => d.placeFrom inner rest
        | .error failure => .error failure

/-- The place of a path. -/
def place (d : Disk) (path : String) : Except IoFailure Place :=
  if path.isEmpty then .error .noEntry
  else if path.toList.contains '\x00' then .error .nulInPath
  else if path.utf8ByteSize > 4095 then .error .nameTooLong
  else d.placeFrom (if path.startsWith "/" then "" else d.here) (names path)

/-- The entry that a path leads to. -/
def find (d : Disk) (path : String) : Except IoFailure Entry := do
  let place ← d.place path
  match d.entry? place.name with
  | none => .error .noEntry
  | some .directory => .ok .directory
  | some found => if place.onlyDirectory then .error .notDirectory else .ok found

/-- Is there anything at a path? -/
def exists? (d : Disk) (path : String) : Bool := (d.find path).toOption.isSome

/-- The absolute name of a path at which a file may be written. -/
def fileName (d : Disk) (path : String) : Except IoFailure String := do
  let place ← d.place path
  match d.entry? place.name with
  | some .directory => .error .isDirectory
  | some _ => if place.onlyDirectory then .error .notDirectory else .ok place.name
  | none => if place.onlyDirectory then .error .isDirectory else .ok place.name

/-! ### Calls -/

/-- The disk with an entry under an absolute name. -/
def put (d : Disk) (name : String) (entry : Entry) : Disk :=
  { d with entries := d.entries.insert name entry }

/-- A call, unless the system refuses it for reasons of its own. -/
def unlessRefused {α : Type} (d : Disk) (call : DiskCall) (result : Except IoFailure α) :
    Except IoFailure α :=
  match d.refuses call with
  | some failure => .error failure
  | none => result

/-- The text of a file. -/
def readText (d : Disk) (path : String) : Except IoFailure String :=
  d.unlessRefused (.read path) <|
    match d.find path with
    | .ok (.file (.text s)) => .ok s
    | .ok .directory => .error .isDirectory
    | .ok _ => .error .notText
    | .error failure => .error failure

/-- The content of an entry that text is added to. -/
def contentOf : Option Entry → Content
  | some (.file content) => content
  | some (.database _) => .binary [0xFF]
  | _ => .text ""

/-- Adds text to the end of a file, which is made if it is missing. -/
def appendText (d : Disk) (path text : String) : Except IoFailure Disk :=
  d.unlessRefused (.append path) <| do
    let name ← d.fileName path
    return d.put name (.file ((contentOf (d.entry? name)).append text))

/-- Writes a file anew. -/
def writeText (d : Disk) (path text : String) : Except IoFailure Disk :=
  d.unlessRefused (.write path) <| do
    let name ← d.fileName path
    return d.put name (.file (.text text))

/-- Gives a file another name; a file of that name is replaced. -/
def rename (d : Disk) (source target : String) : Except IoFailure Disk :=
  d.unlessRefused (.rename source target) <| do
    let sourcePlace ← d.place source
    let targetName ← d.fileName target
    match d.entry? sourcePlace.name with
    | none => .error .noEntry
    | some moved =>
        return { d with entries := (d.entries.erase sourcePlace.name).insert targetName moved }

/-- The directories of the names, from a directory on, made where they are missing. What was made
before a refusal stays. -/
def makeFrom (d : Disk) (dir : String) : List String → Except IoFailure Unit × Disk
  | [] => (.ok (), d)
  | name :: rest =>
      match d.enter dir name with
      | .ok inner => d.makeFrom inner rest
      | .error failure =>
          if failure = .noEntry then
            (d.put (dir ++ "/" ++ name) .directory).makeFrom (dir ++ "/" ++ name) rest
          else if failure = .notDirectory ∧ rest.all (·.isEmpty) then (.error .alreadyThere, d)
          else (.error failure, d)

/-- The directory of a path with all directories above it, made where they are missing. -/
def makeDirectories (d : Disk) (path : String) : Except IoFailure Unit × Disk :=
  if path.isEmpty then (.ok (), d)
  else if path.toList.contains '\x00' then (.error .nulInPath, d)
  else if path.utf8ByteSize > 4095 then (.error .nameTooLong, d)
  else d.makeFrom (if path.startsWith "/" then "" else d.here) (names path)

/-! ### The tree below a directory -/

/-- The entries below a directory with their names relative to it, in byte order; the name of a
directory ends in a slash. -/
def tree (d : Disk) (dir : String) : List String :=
  let top := (dir ++ "/").toList
  let below := d.entries.toList.filterMap fun (name, entry) =>
    if top.isPrefixOf name.toList then
      let relative := String.ofList (name.toList.drop top.length)
      some (match entry with | .directory => relative ++ "/" | _ => relative)
    else none
  below.mergeSort fun a b => decide (a ≤ b)

/-- The disk without a file, or without a directory and all below it. -/
def erase (d : Disk) (name : String) : Disk :=
  let top := (name ++ "/").toList
  let kept := d.entries.toList.filter fun (other, _) =>
    other ≠ name && !top.isPrefixOf other.toList
  { d with entries := Std.ExtTreeMap.ofList kept }

end Disk

end ShortLinks
