/-!
The settings of the service: where links are kept, how deletions are gathered, and what is
logged. Every setting has a default.
-/

namespace ShortLinks

/-- Where links and users are kept. -/
inductive Backing where
  /-- Decided by which of the addresses below is set. -/
  | auto
  | memory
  | file
  | database
deriving DecidableEq, Inhabited

namespace Backing

/-- The name of a choice in settings. -/
def name : Backing → String
  | .auto => "auto"
  | .memory => "memory"
  | .file => "file"
  | .database => "database"

/-- All choices, in the order in which messages list them. -/
def all : List Backing := [.auto, .memory, .file, .database]

/-- The choice of a name; the case of ASCII letters does not matter. -/
def ofName? (text : String) : Option Backing :=
  let lower := text.toList.map Char.toLower
  all.find? fun b => b.name.toList = lower

/-- What is said of a name that is none of the choices. -/
def unknownText (text : String) : String :=
  s!"未知的存储后端: {text}，可选值: " ++ ", ".intercalate (all.map name)

end Backing

/-- Settings of the storage. -/
structure StorageSettings where
  backing : Backing := .auto
  filePath : String := ""
  /-- The file of the users; empty for the default beside the file of the links. -/
  usersFilePath : String := ""
  databaseUrl : String := ""
  /-- The greatest number of database connections, below 2^32. -/
  poolSize : Nat := 10
  /-- How many seconds to wait for a database connection, below 2^64. -/
  timeout : Nat := 8
  /-- How often a database call is tried again, below 2^32. -/
  retryCount : Nat := 3
  /-- The first delay before trying again in milliseconds, below 2^64. -/
  retryBaseDelay : Nat := 100
  /-- The longest delay before trying again in milliseconds, below 2^64. -/
  retryMaxDelay : Nat := 2000
deriving DecidableEq, Inhabited

/-- Settings of the deletion worker, each number below 2^64. -/
structure WorkerSettings where
  /-- Seconds between two flushes; zero counts as one. -/
  flushInterval : Nat := 10
  /-- How many requests may wait in the queue. -/
  queueCapacity : Nat := 1024
  /-- The number of gathered keys from which on a flush is not put off. -/
  maxPending : Nat := 1000
  /-- Whether what was gathered is flushed when the worker stops. -/
  flushOnStop : Bool := true
deriving DecidableEq, Inhabited

/-- Settings of the log. -/
structure LoggingSettings where
  level : String := "info"
  format : String := "text"
  /-- The file to write to; none or an empty name stands for the terminal. -/
  file : Option String := none
  /-- How many rotated files are kept, below 2^32. -/
  maxBackups : Nat := 5
  enableRotation : Bool := true
deriving DecidableEq, Inhabited

/-- All settings. -/
structure Settings where
  storage : StorageSettings := {}
  worker : WorkerSettings := {}
  logging : LoggingSettings := {}
deriving DecidableEq, Inhabited

/-- The backing that is used: a database address goes before a file, and both before memory. -/
def StorageSettings.resolved (s : StorageSettings) : Backing :=
  match s.backing with
  | .auto =>
      if !s.databaseUrl.isEmpty then .database
      else if !s.filePath.isEmpty then .file
      else .memory
  | chosen => chosen

/-- The file of the users. -/
def StorageSettings.usersFile (s : StorageSettings) : String :=
  if s.usersFilePath.isEmpty then s.filePath ++ ".users" else s.usersFilePath

/-- Seconds between two flushes, at least one. -/
def WorkerSettings.interval (w : WorkerSettings) : Nat := max w.flushInterval 1

end ShortLinks
