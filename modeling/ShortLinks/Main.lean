import ShortLinks.Launch
import ShortLinks.Logging.Date
import Std.Time.DateTime

/-!
The program. It gathers the arguments, the environment, the day and the files that a launch may
read, lets `Launch.run` decide, and carries out what that says: files are written, texts are
printed, and a service that is running waits for the end of the input before it is shut down.
Databases are kept in memory for as long as the program runs.
-/

namespace ShortLinks.Program

/-- The variables of a block in which each ends in a zero character. -/
def variablesOf (block : List Char) : Variables :=
  (Text.cut (· = '\x00') block).filterMap fun record =>
    let (name, rest) := record.span (· ≠ '=')
    if rest.isEmpty then none else some (String.ofList name, String.ofList (rest.drop 1))

/-- The content that bytes are. -/
def contentOf (bytes : List UInt8) : Content :=
  match Text.Utf8.text? bytes with
  | some cs => .text (String.ofList cs)
  | none => .binary bytes

/-- The disk with a file at a path. -/
def withFile (disk : Disk) (path : String) (content : Content) : Disk :=
  match disk.place path with
  | .ok place => disk.put place.name (.file content)
  | .error _ => disk

/-- The disk with the file at a path and the directory it stands in, as far as they are there. -/
def load (disk : Disk) (path : String) : IO Disk := do
  let parent := Logging.parentPath path
  let disk ←
    try
      let found ← IO.FS.realPath (if parent.isEmpty then "." else parent)
      pure (if ← found.isDir then (disk.makeDirectories parent).2 else disk)
    catch _ => pure disk
  try
    let bytes ← IO.FS.readBinFile path
    return withFile disk path (contentOf bytes.toList)
  catch _ => return disk

/-- Is the text of a file on the disk? -/
def holdsText (disk : Disk) (name text : String) : Bool :=
  match disk.entry? name with
  | some (.file (.text known)) => known = text
  | _ => false

/-- Writes what has changed on a disk. -/
def save (before after : Disk) : IO Unit := do
  for (name, entry) in after.entries.toList do
    match entry with
    | .directory => if !before.exists? name then IO.FS.createDirAll name
    | .file (.text text) => if !holdsText before name text then IO.FS.writeFile name text
    | _ => pure ()

/-- The paths of the files that a launch with some settings may read or write. -/
def pathsOf (settings : Settings) (date : String) : List String :=
  let logs := settings.logging.file.toList.map fun path =>
    if settings.logging.enableRotation then Logging.dailyPath path date else path
  [settings.storage.filePath, settings.storage.usersFile] ++ logs

/-- The disk with all files that a launch may read. -/
def gather (environment : Variables) (date here : String) : IO Disk := do
  let empty := ({ here } : Disk)
  let start := { (empty.makeDirectories here).2 with here }
  let above := VariablesFile.upwards (here.length + 1) here
  let sources := above.map (· ++ "/" ++ VariablesFile.fileName) ++ [Settings.defaultPath]
  let disk ← sources.foldlM load start
  match Settings.load Settings.defaultPath (VariablesFile.addTo environment disk) disk with
  | .ok settings => (pathsOf settings date).foldlM load disk
  | .error _ => return disk

/-- Waits for the end of the input. -/
partial def waitForEnd (input : IO.FS.Stream) : IO Unit := do
  let line ← input.getLine
  if line.isEmpty then return else waitForEnd input

end ShortLinks.Program

open ShortLinks

def main (arguments : List String) : IO UInt32 := do
  let block ← IO.FS.readBinFile "/proc/self/environ"
  let environment := Program.variablesOf (Text.Utf8.lossy block.toList)
  let seconds := (← Std.Time.Timestamp.now).toSecondsSinceUnixEpoch.val.toNat
  let date := (Logging.Date.ofDay (seconds / 86400)).text
  let before ← Program.gather environment date (← IO.currentDir).toString
  let run := Launch.run {} arguments environment date before
  Program.save before run.disk
  (← IO.getStdout).putStr run.output
  (← IO.getStderr).putStr run.complaint
  match run.service with
  | none => return UInt32.ofNat run.exitCode
  | some service =>
      Program.waitForEnd (← IO.getStdin)
      let (inTime, service) := service.shutdown {}
      Program.save run.disk service.keeper.2
      return if inTime then 0 else 1
