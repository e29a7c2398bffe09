import ShortLinks.Settings.Basic
import ShortLinks.Json.Reader
import ShortLinks.Json.Writer

/-!
Settings as JSON records. Every field may be left out.
-/

namespace ShortLinks

/-- One more than the greatest number of 32 bits. -/
def bound32 : Nat := Nat.pow 2 32

/-- One more than the greatest number of 64 bits. -/
def bound64 : Nat := Nat.pow 2 64

namespace StorageSettings

/-- The names of the fields, in order. -/
def fieldNames : List String :=
  ["backend", "file_path", "users_file_path", "database_url", "pool_size", "timeout",
    "retry_count", "retry_base_delay_ms", "retry_max_delay_ms"]

/-- The record of storage settings. -/
def toJson (s : StorageSettings) : Json :=
  .record [
    ("backend", .text s.backing.name),
    ("file_path", .text s.filePath),
    ("users_file_path", .text s.usersFilePath),
    ("database_url", .text s.databaseUrl),
    ("pool_size", .natural s.poolSize),
    ("timeout", .natural s.timeout),
    ("retry_count", .natural s.retryCount),
    ("retry_base_delay_ms", .natural s.retryBaseDelay),
    ("retry_max_delay_ms", .natural s.retryMaxDelay)]

/-- The storage settings that a record describes. -/
def ofJson? (j : Json) : Option StorageSettings := do
  let fields ← j.fields? fieldNames
  let base : StorageSettings := {}
  return {
    backing := ← fields.defaulted? "backend" (fun v => v.text?.bind Backing.ofName?) base.backing
    filePath := ← fields.defaulted? "file_path" Json.text? base.filePath
    usersFilePath := ← fields.defaulted? "users_file_path" Json.text? base.usersFilePath
    databaseUrl := ← fields.defaulted? "database_url" Json.text? base.databaseUrl
    poolSize := ← fields.defaulted? "pool_size" (Json.natural? bound32) base.poolSize
    timeout := ← fields.defaulted? "timeout" (Json.natural? bound64) base.timeout
    retryCount := ← fields.defaulted? "retry_count" (Json.natural? bound32) base.retryCount
    retryBaseDelay :=
      ← fields.defaulted? "retry_base_delay_ms" (Json.natural? bound64) base.retryBaseDelay
    retryMaxDelay :=
      ← fields.defaulted? "retry_max_delay_ms" (Json.natural? bound64) base.retryMaxDelay }

end StorageSettings

namespace WorkerSettings

/-- The names of the fields, in order. -/
def fieldNames : List String :=
  ["flush_interval_secs", "queue_capacity", "max_pending_before_flush", "flush_on_stop"]

/-- The record of worker settings. -/
def toJson (w : WorkerSettings) : Json :=
  .record [
    ("flush_interval_secs", .natural w.flushInterval),
    ("queue_capacity", .natural w.queueCapacity),
    ("max_pending_before_flush", .natural w.maxPending),
    ("flush_on_stop", .bool w.flushOnStop)]

/-- The worker settings that a record describes. -/
def ofJson? (j : Json) : Option WorkerSettings := do
  let fields ← j.fields? fieldNames
  let base : WorkerSettings := {}
  return {
    flushInterval :=
      ← fields.defaulted? "flush_interval_secs" (Json.natural? bound64) base.flushInterval
    queueCapacity := ← fields.defaulted? "queue_capacity" (Json.natural? bound64) base.queueCapacity
    maxPending :=
      ← fields.defaulted? "max_pending_before_flush" (Json.natural? bound64) base.maxPending
    flushOnStop := ← fields.defaulted? "flush_on_stop" Json.bool? base.flushOnStop }

end WorkerSettings

namespace LoggingSettings

/-- The names of the fields, in order. -/
def fieldNames : List String := ["level", "format", "file", "max_backups", "enable_rotation"]

/-- The record of log settings. -/
def toJson (l : LoggingSettings) : Json :=
  .record [
    ("level", .text l.level),
    ("format", .text l.format),
    ("file", match l.file with | some path => .text path | none => .null),
    ("max_backups", .natural l.maxBackups),
    ("enable_rotation", .bool l.enableRotation)]

/-- The log settings that a record describes. -/
def ofJson? (j : Json) : Option LoggingSettings := do
  let fields ← j.fields? fieldNames
  let base : LoggingSettings := {}
  return {
    level := ← fields.defaulted? "level" Json.text? base.level
    format := ← fields.defaulted? "format" Json.text? base.format
    file := ← fields.defaulted? "file" (Json.optional? Json.text?) base.file
    maxBackups := ← fields.defaulted? "max_backups" (Json.natural? bound32) base.maxBackups
    enableRotation := ← fields.defaulted? "enable_rotation" Json.bool? base.enableRotation }

end LoggingSettings

namespace Settings

/-- The names of the parts, in order. -/
def fieldNames : List String := ["storage", "worker", "logging"]

/-- The record of all settings. -/
def toJson (s : Settings) : Json :=
  .record [("storage", s.storage.toJson), ("worker", s.worker.toJson),
    ("logging", s.logging.toJson)]

/-- The settings that a record describes. -/
def ofJson? (j : Json) : Option Settings := do
  let fields ← j.fields? fieldNames
  return {
    storage := ← fields.defaulted? "storage" StorageSettings.ofJson? {}
    worker := ← fields.defaulted? "worker" WorkerSettings.ofJson? {}
    logging := ← fields.defaulted? "logging" LoggingSettings.ofJson? {} }

end Settings

end ShortLinks
