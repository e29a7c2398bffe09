import ShortLinks.Keeper.Basic
import ShortLinks.Keeper.LinkIndex
import ShortLinks.Keeper.UserIndex
import ShortLinks.Link.Json
import ShortLinks.Disk.Basic
import ShortLinks.Text.Cut

/-!
The keeper of two files with one JSON record per line. New records are added at the end; when
tombstone marks change, the file of the links is written anew beside the old one and then takes
its name. Reading skips what is no record, and of two lines with the same key the later one
counts. A call that cannot write leaves the indexes as they were.
-/

namespace ShortLinks

/-- The paths of the two files and the indexes of what they hold. -/
structure FileKeeper where
  linksPath : String
  usersPath : String
  links : LinkIndex := {}
  users : UserIndex := {}

namespace FileKeeper

/-! ### Lines -/

/-- The records of a text, line by line; other lines are skipped. -/
def readRecords {α : Type} (ofJson? : Json → Option α) (text : String) : List α :=
  (Text.lines text.toList).filterMap fun line =>
    (Json.parse? (String.ofList line)).bind ofJson?

/-- The line of a record. -/
def encodeLine (j : Json) : String := j.compact ++ "\n"

/-- The lines of records. -/
def encodeLines {α : Type} (toJson : α → Json) (items : List α) : String :=
  String.join (items.map fun item => encodeLine (toJson item))

/-- Links under their keys; a later one replaces an earlier one. -/
def linkMapOf (links : List Link) : LinkMap :=
  links.foldl (fun table link => table.insert link.key link) ∅

/-- Users under their addresses; a later one replaces an earlier one. -/
def userMapOf (users : List User) : UserMap :=
  users.foldl (fun table user => table.insert user.email user) ∅

/-! ### Files -/

/-- The fault of a call on a file, with its context. -/
def fileFault (context path : String) (failure : IoFailure) : Fault :=
  ⟨.fileOperation, s!"{context} {path} 失败: {failure.text}"⟩

/-- The records of a file; a missing file holds none. -/
def readFile {α : Type} (ofJson? : Json → Option α) (path : String) (disk : Disk) :
    Except Fault (List α) :=
  match disk.readText path with
  | .ok text => .ok (readRecords ofJson? text)
  | .error failure =>
      if failure = .noEntry then .ok [] else .error (fileFault "读取数据文件" path failure)

/-- The links of a file under their keys. -/
def readLinks (path : String) (disk : Disk) : Except Fault LinkMap :=
  (readFile Link.ofJson? path disk).map linkMapOf

/-- The users of a file under their addresses. -/
def readUsers (path : String) (disk : Disk) : Except Fault UserMap :=
  (readFile User.ofJson? path disk).map userMapOf

/-- Adds the lines of records to a file. -/
def appendRecords {α : Type} (toJson : α → Json) (path : String) (items : List α) (disk : Disk) :
    Except Fault Disk :=
  if items.isEmpty then .ok disk
  else
    match disk.appendText path (encodeLines toJson items) with
    | .ok after => .ok after
    | .error failure => .error (fileFault "打开数据文件" path failure)

/-- The file that is written before it takes the place of another one. -/
def draftPath (path : String) : String := path ++ ".tmp"

/-- Writes a file anew by way of a draft. The draft stays if it cannot take its place. -/
def writeAnew (path : String) (links : List Link) (disk : Disk) : Except Fault Unit × Disk :=
  match disk.writeText (draftPath path) (encodeLines Link.toJson links) with
  | .error failure => (.error (fileFault "写入临时文件" (draftPath path) failure), disk)
  | .ok drafted =>
      match drafted.rename (draftPath path) path with
      | .ok after => (.ok (), after)
      | .error failure => (.error ⟨.fileOperation, failure.text⟩, drafted)

/-- All links of an index in the order of their short links. -/
def sortedLinks (index : LinkIndex) : List Link :=
  index.byKey.values.mergeSort fun a b => decide (a.shortUrl ≤ b.shortUrl)

/-! ### Calls -/

/-- The keeper of two files. -/
def ofPaths (linksPath usersPath : String) (disk : Disk) : Except Fault FileKeeper :=
  if linksPath.isEmpty then .error ⟨.validation, "file keeper path is empty"⟩
  else do
    let links ← readLinks linksPath disk
    let users ← readUsers usersPath disk
    return ⟨linksPath, usersPath, .ofMap links, ⟨users⟩⟩

/-- Reads the links again. -/
def load : Call (FileKeeper × Disk) LinkMap := fun (k, disk) =>
  match readLinks k.linksPath disk with
  | .ok links => (.ok links, { k with links := .ofMap links }, disk)
  | .error fault => (.error fault, k, disk)

/-- Reads the users again. -/
def loadUsers : Call (FileKeeper × Disk) UserMap := fun (k, disk) =>
  match readUsers k.usersPath disk with
  | .ok users => (.ok users, { k with users := ⟨users⟩ }, disk)
  | .error fault => (.error fault, k, disk)

/-- Stores a link and adds its line. -/
def save (fresh key : String) (link : Link) : Call (FileKeeper × Disk) (Inserted Link) :=
  fun (k, disk) =>
    match k.links.insert fresh key link with
    | (.existing holder, _) => (.ok (.existing holder), k, disk)
    | (.created stored, links) =>
        match appendRecords Link.toJson k.linksPath [stored] disk with
        | .ok after => (.ok (.created stored), { k with links := links }, after)
        | .error fault => (.error fault, { k with links := links.remove stored }, disk)

/-- Stores a user and adds the line. -/
def saveUser (fresh email : String) (user : User) : Call (FileKeeper × Disk) (Inserted User) :=
  fun (k, disk) =>
    match k.users.insert fresh email user with
    | (.error fault, _) => (.error fault, k, disk)
    | (.ok (.existing stored), _) => (.ok (.existing stored), k, disk)
    | (.ok (.created stored), users) =>
        match appendRecords User.toJson k.usersPath [stored] disk with
        | .ok after => (.ok (.created stored), { k with users := users }, after)
        | .error fault => (.error fault, { k with users := users.remove stored.email }, disk)

/-- Stores a batch and adds the lines of what is new. -/
def saveBatch (fresh : String → String) (batch : LinkMap) :
    Call (FileKeeper × Disk) BatchReport := fun (k, disk) =>
  if batch.isEmpty then (.ok {}, k, disk)
  else
    let r := k.links.insertBatch fresh batch
    match appendRecords Link.toJson k.linksPath r.created disk with
    | .ok after => (.ok r.report, { k with links := r.index }, after)
    | .error fault =>
        (.error fault, { k with links := r.created.foldl LinkIndex.remove r.index }, disk)

/-- Sets tombstone marks, and writes the file anew if any was set. -/
def updateBatch (requests : List DeletionRequest) : Call (FileKeeper × Disk) Unit :=
  fun (k, disk) =>
    match k.links.tombstone requests with
    | (_, false) => (.ok (), k, disk)
    | (links, true) =>
        match writeAnew k.linksPath (sortedLinks links) disk with
        | (.ok (), after) => (.ok (), { k with links := links }, after)
        | (.error fault, after) => (.error fault, k, after)

/-- The names of a path that count: without blanks between slashes and without "here" after the
start. -/
def pathNames (path : String) : List String :=
  match Disk.names path with
  | [] => []
  | first :: rest =>
      (if first = "" then [] else [first]) ++ rest.filter fun name => name ≠ "" ∧ name ≠ "."

/-- The path of the directory that a path stands in; `none` for the root, and empty for a name
alone. -/
def parentPath? (path : String) : Option String :=
  let root := if path.startsWith "/" then "/" else ""
  match pathNames path with
  | [] => none
  | names => some (root ++ "/".intercalate names.dropLast)

/-- Does the directory of the links exist? -/
def ping : FileKeeper × Disk → Bool := fun (k, disk) =>
  match parentPath? k.linksPath with
  | some dir => dir.isEmpty || disk.exists? dir
  | none => true

instance : Keeper (FileKeeper × Disk) where
  load := load
  loadUsers := loadUsers
  save := save
  saveUser := saveUser
  saveBatch := saveBatch
  updateBatch := updateBatch
  countLinks s := (.ok s.1.links.size, s)
  countUsers s := (.ok s.1.users.size, s)
  ping := ping
  close s := (true, s)
  name _ := "file"

end FileKeeper

end ShortLinks
