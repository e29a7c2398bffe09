import ShortLinks.Keeper.Memory
import ShortLinks.Keeper.Unreliable
import ShortLinks.Keeper.File
import ShortLinks.Keeper.Database
import ShortLinks.Database.Address
import ShortLinks.Settings.Basic

/-!
The keeper that the settings choose. A database lives in a file on the disk, where several
keepers may share it, or in memory or on a server, with its keeper alone; `Backend` hides the
difference.

What is not on the disk comes from the `Surroundings`: the servers, and the orders in which tables
and batches are read. The tables of a server are taken to keep their constraints as those of a file
do.
-/

namespace ShortLinks

/-- A keeper of one of the kinds. -/
inductive Backend where
  | memory (keeper : MemoryKeeper)
  /-- A keeper in memory that may be out of reach. -/
  | unreliable (keeper : Unreliable MemoryKeeper)
  | file (keeper : FileKeeper)
  /-- A database and the absolute name of its file, if it has one. -/
  | database (keeper : DatabaseKeeper) (home : Option String)

/-- What comes of asking a server for a database. -/
inductive ServerAnswer where
  /-- There is no connection, for this reason. -/
  | unreachable (reason : String)
  /-- The tables cannot be brought up to date, for this reason. -/
  | unprepared (reason : String)
  | opened (database : Database)

namespace ServerAnswer

/-- Nobody listens at the address. -/
def refused : ServerAnswer :=
  .unreachable ("Connection Error: error communicating with database: " ++ errnoText 111)

end ServerAnswer

/-- What the opening of a database depends on besides its address and the disk. -/
structure Surroundings where
  /-- What the server of a kind at an address answers. -/
  ask : DatabaseKind → String → ServerAnswer := fun _ _ => .refused
  reads : ReadOrder := .indexed

namespace Backend

/-- The fault of a database, of the kind with this name, to which there is no connection. -/
def cannotConnect (name reason : String) : Fault :=
  ⟨.databaseConnection, s!"无法连接到 {name} 数据库: {reason}"⟩

/-! ### Databases in files -/

/-- The keeper with what the file of its database holds. -/
def refreshed (keeper : DatabaseKeeper) (home : Option String) (disk : Disk) : DatabaseKeeper :=
  match home.bind disk.entry? with
  | some (.database tables) => { keeper with database := tables }
  | _ => keeper

/-- The disk with the file of a database as its keeper leaves it. -/
def stored (keeper : DatabaseKeeper) (home : Option String) (disk : Disk) : Disk :=
  match home with
  | some name =>
      match disk.entry? name with
      | some (.database _) => disk.put name (.database keeper.database)
      | _ => disk
  | none => disk

/-- The names of the files beside the file of a database that is in use. -/
def companions (name : String) : List String := [name ++ "-shm", name ++ "-wal"]

/-- The fault of a database in a file that cannot be opened. -/
def cannotOpen (reason : String) : Fault := cannotConnect "SQLite" reason

/-- The fault of such a database, for a reason with a code. -/
def refusedOpen (code : Nat) (text : String) : Fault :=
  cannotOpen s!"error returned from database: (code: {code}) {text}"

/-- The systems of files that a database may ask for. -/
def fileSystems : List String := ["unix", "unix-none", "unix-dotfile", "unix-excl", "memdb"]

/-- The keeper of a file database. -/
def openFile (reads : ReadOrder) (options : FileDatabaseOptions) (disk : Disk) :
    Except Fault (Backend × Disk) :=
  let keeper (tables : Database) : DatabaseKeeper :=
    { backend := DatabaseKind.sqlite.name, database := tables, reads }
  if options.path.toList.contains '\x00' then
    .error (cannotOpen ("error communicating with database: "
      ++ "filename passed to SQLite must not contain nul bytes"))
  else if options.vfs.any (!fileSystems.contains ·) then
    .error (refusedOpen 1 ("no such vfs: " ++ options.vfs.getD ""))
  else if options.inMemory || options.path.isEmpty then .ok (.database (keeper {}) none, disk)
  else
    match disk.fileName options.path with
    | .error _ => .error (refusedOpen 14 "unable to open database file")
    | .ok name =>
        match disk.entry? name with
        | some (.file (.text "")) =>
            if options.readOnly then .error (refusedOpen 8 "attempt to write a readonly database")
            else .ok (openAt (keeper {}) name)
        | some (.file _) => .error (refusedOpen 26 "file is not a database")
        | some (.database tables) => .ok (openAt (keeper tables) name)
        | _ =>
            if options.readOnly then .error (refusedOpen 14 "unable to open database file")
            else .ok (openAt (keeper {}) name)
where
  /-- The keeper over a file of this name, and the disk with the file in use. -/
  openAt (keeper : DatabaseKeeper) (name : String) : Backend × Disk :=
    let disk := disk.put name (.database keeper.database)
    (.database keeper (some name),
      (companions name).foldl (fun d other => d.put other (.file (.binary []))) disk)

/-- Opens the address as that of a file, whatever its scheme is. -/
def openAsFile (around : Surroundings) (url : String) (disk : Disk) :
    Except Fault (Backend × Disk) := do
  openFile around.reads (← FileDatabaseOptions.ofUrl url) disk

/-! ### Databases on servers -/

/-- The fault of a database whose tables cannot be brought up to date. -/
def cannotPrepare (reason : String) : Fault := ⟨.databaseOperation, s!"迁移失败: {reason}"⟩

/-- Asks the server of a kind at an address for its database. -/
def openServer (around : Surroundings) (kind : DatabaseKind) (url : String) (disk : Disk) :
    Except Fault (Backend × Disk) :=
  match around.ask kind url with
  | .unreachable reason => .error (cannotConnect kind.name.toUpper reason)
  | .unprepared reason => .error (cannotPrepare reason)
  | .opened tables =>
      .ok (.database { backend := kind.name, database := tables, reads := around.reads } none, disk)

/-! ### The choice -/

/-- The keeper of the database with this address. -/
def openDatabase (around : Surroundings) (url : String) (disk : Disk) :
    Except Fault (Backend × Disk) :=
  if url.isEmpty then .error ⟨.databaseConfig, "database_url 未设置"⟩
  else do
    match ← DatabaseKind.ofUrl url with
    | .sqlite => openAsFile around url disk
    | kind => openServer around kind url disk

/-- The keeper that the settings choose. -/
def ofSettings (around : Surroundings) (s : StorageSettings) (disk : Disk) :
    Except Fault (Backend × Disk) :=
  match s.resolved with
  | .database => openDatabase around s.databaseUrl disk
  | .file => (FileKeeper.ofPaths s.filePath s.usersFile disk).map fun k => (.file k, disk)
  | .memory | .auto => .ok (.memory {}, disk)

/-! ### Calls -/

/-- A call, given for each kind of keeper. -/
def dispatch {α : Type} (memory : Call MemoryKeeper α) (file : Call (FileKeeper × Disk) α)
    (database : Call DatabaseKeeper α) : Call (Backend × Disk) α := fun (backend, disk) =>
  match backend with
  | .memory keeper =>
      let (answer, keeper) := memory keeper
      (answer, .memory keeper, disk)
  | .unreliable keeper =>
      let (answer, keeper) := Unreliable.guarded memory keeper
      (answer, .unreliable keeper, disk)
  | .file keeper =>
      let (answer, keeper, disk) := file (keeper, disk)
      (answer, .file keeper, disk)
  | .database keeper home =>
      let (answer, keeper) := database (refreshed keeper home disk)
      (answer, .database keeper home, stored keeper home disk)

/-- Gives back what the keeper holds; the companions of a database file go. -/
def close : Backend × Disk → Bool × (Backend × Disk) := fun (backend, disk) =>
  match backend with
  | .memory keeper => (true, .memory keeper, disk)
  | .unreliable keeper =>
      let (closed, keeper) := Keeper.close keeper
      (closed, .unreliable keeper, disk)
  | .file keeper => (true, .file keeper, disk)
  | .database keeper home =>
      let (closed, keeper) := Keeper.close keeper
      let names := (home.map companions).getD []
      (closed, .database keeper home,
        { disk with entries := names.foldl (fun entries name => entries.erase name) disk.entries })

instance : Keeper (Backend × Disk) where
  load := dispatch Keeper.load Keeper.load Keeper.load
  loadUsers := dispatch Keeper.loadUsers Keeper.loadUsers Keeper.loadUsers
  save fresh key link :=
    dispatch (Keeper.save fresh key link) (Keeper.save fresh key link) (Keeper.save fresh key link)
  saveUser fresh email user :=
    dispatch (Keeper.saveUser fresh email user) (Keeper.saveUser fresh email user)
      (Keeper.saveUser fresh email user)
  saveBatch fresh batch :=
    dispatch (Keeper.saveBatch fresh batch) (Keeper.saveBatch fresh batch)
      (Keeper.saveBatch fresh batch)
  updateBatch requests :=
    dispatch (Keeper.updateBatch requests) (Keeper.updateBatch requests)
      (Keeper.updateBatch requests)
  countLinks := dispatch Keeper.countLinks Keeper.countLinks Keeper.countLinks
  countUsers := dispatch Keeper.countUsers Keeper.countUsers Keeper.countUsers
  ping s :=
    match s.1 with
    | .memory keeper => Keeper.ping keeper
    | .unreliable keeper => Keeper.ping keeper
    | .file keeper => Keeper.ping (keeper, s.2)
    | .database keeper _ => Keeper.ping keeper
  close := close
  name s :=
    match s.1 with
    | .memory keeper => Keeper.name keeper
    | .unreliable keeper => Keeper.name keeper
    | .file keeper => Keeper.name (keeper, s.2)
    | .database keeper _ => Keeper.name keeper

end Backend

end ShortLinks
