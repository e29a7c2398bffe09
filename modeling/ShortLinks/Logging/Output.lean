import ShortLinks.Disk.Basic
import ShortLinks.Fault.Basic
import ShortLinks.Logging.Filter
import ShortLinks.Settings.Basic

/-!
Where log lines go: to the terminal, to one file, or to a file for each day. `Logging.start` makes
the output ready before it looks at the level, so the file of a log exists even if the level is
refused.
-/

namespace ShortLinks.Logging

/-- Where log lines go. -/
inductive Output where
  | terminal
  | file (path : String)
deriving DecidableEq, Inhabited

/-! ### The file of a day -/

/-- The names of a path that lead somewhere. -/
def pathNames (path : String) : List String :=
  (Disk.names path).filter fun name => name ≠ "" && name ≠ "."

/-- The last name of a path, if that is the name of a file. -/
def lastName? (path : String) : Option String :=
  (pathNames path).getLast?.filter (· ≠ "..")

/-- The directory that a path stands in; that of the root is the current one. -/
def parentPath (path : String) : String :=
  let names := pathNames path
  let above := "/".intercalate names.dropLast
  if path.startsWith "/" then if names.isEmpty then "." else "/" ++ above else above

/-- The name without the ends `.log`, however many there are. -/
def withoutEnds (name : String) : String :=
  let ending := ['g', 'o', 'l', '.']
  let rec strip : Nat → List Char → List Char
    | 0, cs => cs
    | fuel + 1, cs => if ending.isPrefixOf cs then strip fuel (cs.drop ending.length) else cs
  String.ofList (strip name.length name.toList.reverse).reverse

/-- The name of the file of a day. -/
def dailyName (name date : String) : String :=
  let start := withoutEnds name
  if start.isEmpty then s!"{date}.log" else s!"{start}.{date}.log"

/-- The path of the file of a day, for a log that is to be at `path`. -/
def dailyPath (path date : String) : String :=
  let name := dailyName ((lastName? path).getD "tinyurl.log") date
  let dir := parentPath path
  if dir.isEmpty then name else if dir.endsWith "/" then dir ++ name else s!"{dir}/{name}"

/-- The fault of a log file that cannot be made. -/
def dailyFault (what : String) (failure : IoFailure) : Fault :=
  ⟨.fileOperation,
    s!"failed to create rolling log appender: failed to create {what}: {failure.text}"⟩

/-- Makes the file of a day ready, with the directories above it where they are missing. -/
def openDaily (path date : String) (disk : Disk) : Except Fault Output × Disk :=
  let daily := dailyPath path date
  match disk.appendText daily "" with
  | .ok after => (.ok (.file daily), after)
  | .error _ =>
      match disk.makeDirectories (parentPath daily) with
      | (.error failure, made) => (.error (dailyFault "log directory" failure), made)
      | (.ok (), made) =>
          match made.appendText daily "" with
          | .ok after => (.ok (.file daily), after)
          | .error failure => (.error (dailyFault "initial log file" failure), made)

/-! ### All outputs -/

/-- Makes the output ready that the settings name. -/
def openOutput (settings : LoggingSettings) (date : String) (disk : Disk) :
    Except Fault Output × Disk :=
  match settings.file.filter (!·.isEmpty) with
  | none => (.ok .terminal, disk)
  | some path =>
      if settings.enableRotation then openDaily path date disk
      else
        match disk.appendText path "" with
        | .ok after => (.ok (.file path), after)
        | .error failure => (.error ⟨.fileOperation, failure.text⟩, disk)

/-- The fault of a level that is refused. -/
def levelFault (level : String) (failure : FilterFailure) : Fault :=
  ⟨.config, s!"invalid log level '{level}': {failure.text}"⟩

/-- The fault of a log that is started a second time. -/
def alreadyStarted : Fault :=
  ⟨.config,
    "logging already initialized: a global default trace dispatcher has already been set"⟩

/-- Starts the log; a program has one log only. -/
def start (running : Bool) (settings : LoggingSettings) (date : String) (disk : Disk) :
    Except Fault Output × Disk :=
  match openOutput settings date disk with
  | (.error fault, after) => (.error fault, after)
  | (.ok output, after) =>
      match LogFilter.levels settings.level with
      | .error failure => (.error (levelFault settings.level failure), after)
      | .ok _ => (if running then .error alreadyStarted else .ok output, after)

end ShortLinks.Logging
