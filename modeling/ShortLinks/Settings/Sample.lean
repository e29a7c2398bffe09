import ShortLinks.Settings.Basic

/-!
The sample of a settings file: every setting with its default, part by part.
-/

namespace ShortLinks.Settings

/-- A text value of the file. The defaults hold nothing that would have to be escaped. -/
def quotedValue (text : String) : String := "\"" ++ text ++ "\""

/-- A part of the file: its heading, then a line per setting. -/
def part (heading : String) (entries : List (String × String)) : String :=
  s!"[{heading}]\n" ++ String.join (entries.map fun e => e.1 ++ " = " ++ e.2 ++ "\n")

/-- The file with these settings; a log file that is not set is left out. -/
def toFile (s : Settings) : String :=
  "\n".intercalate [
    part "storage" [
      ("backend", quotedValue s.storage.backing.name),
      ("file_path", quotedValue s.storage.filePath),
      ("users_file_path", quotedValue s.storage.usersFilePath),
      ("database_url", quotedValue s.storage.databaseUrl),
      ("pool_size", toString s.storage.poolSize),
      ("timeout", toString s.storage.timeout),
      ("retry_count", toString s.storage.retryCount),
      ("retry_base_delay_ms", toString s.storage.retryBaseDelay),
      ("retry_max_delay_ms", toString s.storage.retryMaxDelay)],
    part "worker" [
      ("flush_interval_secs", toString s.worker.flushInterval),
      ("queue_capacity", toString s.worker.queueCapacity),
      ("max_pending_before_flush", toString s.worker.maxPending),
      ("flush_on_stop", toString s.worker.flushOnStop)],
    part "logging" ([
      ("level", quotedValue s.logging.level),
      ("format", quotedValue s.logging.format)]
      ++ (s.logging.file.map fun path => ("file", quotedValue path)).toList
      ++ [("max_backups", toString s.logging.maxBackups),
        ("enable_rotation", toString s.logging.enableRotation)])]

/-- The file with all defaults. -/
def sample : String := toFile {}

end ShortLinks.Settings
