import ShortLinks.Fault.Basic
import ShortLinks.Settings.Record
import ShortLinks.Settings.Tree

/-!
Settings read from a tree. Names that no setting has are passed over, and a setting that the tree
does not have keeps its default. `SettingsFailure` names the causes for which a tree is refused.
-/

namespace ShortLinks

/-- Why settings cannot be loaded. -/
inductive SettingsFailure where
  /-- The file breaks the rules of its format. -/
  | malformed (path : String)
  /-- A value of a kind that the setting does not take. The name of the setting has all names on
  the way to it. -/
  | unsuitable (found expected : String) (setting : List String) (origin : Option Origin)
  /-- A name that no backing has. -/
  | unknownBacking (name : String) (setting : List String)
deriving DecidableEq, Inhabited

namespace SettingsFailure

/-- The failure as seen from the table in which `name` leads to where it arose. -/
def under (name : String) : SettingsFailure → SettingsFailure
  | .malformed path => .malformed path
  | .unsuitable found expected setting origin =>
      .unsuitable found expected (name :: setting) origin
  | .unknownBacking text setting => .unknownBacking text (name :: setting)

/-- The part of a message that says which setting is meant. -/
def forSetting (setting : List String) : String :=
  if setting.isEmpty then "" else " for key `" ++ ".".intercalate setting ++ "`"

/-- The message of a failure. -/
def text : SettingsFailure → String
  | .malformed path => s!"TOML parse error in {path}"
  | .unsuitable found expected setting origin =>
      s!"invalid type: {found}, expected {expected}" ++ forSetting setting
        ++ (origin.map fun o => s!" in {o.described}").getD ""
  | .unknownBacking name setting => Backing.unknownText name ++ forSetting setting

/-- The fault of a failure. -/
def fault (failure : SettingsFailure) : Fault := ⟨.config, failure.text⟩

end SettingsFailure

namespace SettingTree

/-- What a message calls a tree that is no table, with its origin. -/
def described : SettingTree → String × Option Origin
  | .absent => ("unit value", none)
  | .scalar value origin => (value.described, some origin)
  | .list _ origin => ("sequence", origin)
  | .table _ => ("map", none)

/-- Refuses a tree where something else was expected. -/
def refuse {α : Type} (tree : SettingTree) (expected : String) : Except SettingsFailure α :=
  .error (.unsuitable tree.described.1 expected [] tree.described.2)

/-! ### Single values -/

/-- The text that a tree gives. -/
def readText : SettingTree → Except SettingsFailure String
  | .scalar value _ => .ok value.asText
  | tree => tree.refuse "a string"

/-- The truth value that a tree gives. -/
def readBool : SettingTree → Except SettingsFailure Bool
  | .scalar value origin =>
      match value.asBool? with
      | some b => .ok b
      | none => (SettingTree.scalar value origin).refuse "a boolean"
  | tree => tree.refuse "a boolean"

/-- What is expected in the place of a value that gives no natural number. -/
def naturalExpected : Scalar → String
  | .integer _ => "an unsigned 64 bit or less integer"
  | _ => "an integer"

/-- The natural number of 64 bits that a tree gives. -/
def readNatural : SettingTree → Except SettingsFailure Nat
  | .scalar value origin =>
      match value.asNatural? with
      | some n => .ok n
      | none => (SettingTree.scalar value origin).refuse (naturalExpected value)
  | tree => tree.refuse "an integer"

/-- The natural number of 32 bits that a tree gives. -/
def readNatural32 (tree : SettingTree) : Except SettingsFailure Nat := do
  let n ← tree.readNatural
  if n < bound32 then return n
  else .error (.unsuitable s!"64-bit unsigned integer `{n}`" "an unsigned 32 bit integer" [] none)

/-- The backing that a tree names. -/
def readBacking (tree : SettingTree) : Except SettingsFailure Backing := do
  let name ← tree.readText
  match Backing.ofName? name with
  | some backing => return backing
  | none => .error (.unknownBacking name [])

/-- What a tree gives that may be absent. -/
def readOptional {α : Type} (read : SettingTree → Except SettingsFailure α) :
    SettingTree → Except SettingsFailure (Option α)
  | .absent => .ok none
  | tree => (read tree).map some

/-! ### Records -/

/-- What a message calls a tree in the place of a record. -/
def describedForRecord : SettingTree → String
  | .scalar (.integer n) _ => s!"integer `{n}`"
  | tree => tree.described.1

/-- The fields of a record: the entries of a table, or the items of a list in the order of the
fields. -/
def fields (record : String) (names : List String) :
    SettingTree → Except SettingsFailure Entries
  | .table es => .ok es
  | .list xs _ => .ok (names.zip xs)
  | tree => .error (.unsuitable tree.describedForRecord s!"struct {record}" [] none)

/-- The value of a field, or its default if there is none. -/
def field {α : Type} (es : Entries) (name : String)
    (read : SettingTree → Except SettingsFailure α) (default : α) : Except SettingsFailure α :=
  match es.lookup name with
  | none => .ok default
  | some tree => (read tree).mapError (·.under name)

/-- The storage settings of a tree. -/
def readStorage (tree : SettingTree) : Except SettingsFailure StorageSettings := do
  let es ← tree.fields "StorageConfig" StorageSettings.fieldNames
  let base : StorageSettings := {}
  return {
    backing := ← field es "backend" readBacking base.backing
    filePath := ← field es "file_path" readText base.filePath
    usersFilePath := ← field es "users_file_path" readText base.usersFilePath
    databaseUrl := ← field es "database_url" readText base.databaseUrl
    poolSize := ← field es "pool_size" readNatural32 base.poolSize
    timeout := ← field es "timeout" readNatural base.timeout
    retryCount := ← field es "retry_count" readNatural32 base.retryCount
    retryBaseDelay := ← field es "retry_base_delay_ms" readNatural base.retryBaseDelay
    retryMaxDelay := ← field es "retry_max_delay_ms" readNatural base.retryMaxDelay }

/-- The worker settings of a tree. -/
def readWorker (tree : SettingTree) : Except SettingsFailure WorkerSettings := do
  let es ← tree.fields "WorkerConfig" WorkerSettings.fieldNames
  let base : WorkerSettings := {}
  return {
    flushInterval := ← field es "flush_interval_secs" readNatural base.flushInterval
    queueCapacity := ← field es "queue_capacity" readNatural base.queueCapacity
    maxPending := ← field es "max_pending_before_flush" readNatural base.maxPending
    flushOnStop := ← field es "flush_on_stop" readBool base.flushOnStop }

/-- The log settings of a tree. -/
def readLogging (tree : SettingTree) : Except SettingsFailure LoggingSettings := do
  let es ← tree.fields "LoggingConfig" LoggingSettings.fieldNames
  let base : LoggingSettings := {}
  return {
    level := ← field es "level" readText base.level
    format := ← field es "format" readText base.format
    file := ← field es "file" (readOptional readText) base.file
    maxBackups := ← field es "max_backups" readNatural32 base.maxBackups
    enableRotation := ← field es "enable_rotation" readBool base.enableRotation }

/-- The settings of a tree. -/
def readSettings (tree : SettingTree) : Except SettingsFailure Settings := do
  let es ← tree.fields "StaticConfig" Settings.fieldNames
  return {
    storage := ← field es "storage" readStorage {}
    worker := ← field es "worker" readWorker {}
    logging := ← field es "logging" readLogging {} }

end SettingTree

end ShortLinks
