/-!
What can go wrong. A `Fault` is one of eleven kinds together with a text for the reader; the
constructors below are named for their causes, so that every wording stands in one place.
`Fault.simple` and `Fault.report` are the one-line and the two-line forms that are printed.
-/

namespace ShortLinks

/-- The kinds of fault, in the order of their codes. -/
inductive FaultKind where
  | notFound
  | conflict
  | credentialMismatch
  | validation
  | databaseConfig
  | databaseConnection
  | databaseOperation
  | fileOperation
  | serialization
  | config
  | workerUnavailable
deriving DecidableEq, Inhabited

namespace FaultKind

/-- All kinds, in the order of their codes. -/
def all : List FaultKind :=
  [.notFound, .conflict, .credentialMismatch, .validation, .databaseConfig, .databaseConnection,
    .databaseOperation, .fileOperation, .serialization, .config, .workerUnavailable]

/-- The stable code of a kind. -/
def code : FaultKind → String
  | .notFound => "E001"
  | .conflict => "E002"
  | .credentialMismatch => "E003"
  | .validation => "E004"
  | .databaseConfig => "E005"
  | .databaseConnection => "E006"
  | .databaseOperation => "E007"
  | .fileOperation => "E008"
  | .serialization => "E009"
  | .config => "E010"
  | .workerUnavailable => "E011"

/-- The heading of a kind. -/
def title : FaultKind → String
  | .notFound => "Resource Not Found"
  | .conflict => "Resource Already Exists"
  | .credentialMismatch => "Credential Mismatch"
  | .validation => "Validation Error"
  | .databaseConfig => "Database Configuration Error"
  | .databaseConnection => "Database Connection Error"
  | .databaseOperation => "Database Operation Error"
  | .fileOperation => "File Operation Error"
  | .serialization => "Serialization Error"
  | .config => "Configuration Error"
  | .workerUnavailable => "Worker Unavailable"

/-- The kinds that say that stored data could not be reached or written. -/
def isPersistence : FaultKind → Bool
  | .databaseConnection | .databaseOperation | .fileOperation | .serialization => true
  | _ => false

end FaultKind

/-- A fault: its kind and the text that names the case at hand. -/
structure Fault where
  kind : FaultKind
  message : String
deriving DecidableEq, Inhabited

namespace Fault

/-! ### Causes -/

/-- No link has this key. -/
def noSuchLink (key : String) : Fault := ⟨.notFound, s!"短链接不存在: {key}"⟩

/-- No user has this address. -/
def noSuchUser (email : String) : Fault := ⟨.notFound, s!"用户不存在: {email}"⟩

/-- The record was there before, and the caller wanted a new one. -/
def alreadyExists : Fault := ⟨.conflict, "record already exists"⟩

/-- The address is registered under another password. -/
def credentialMismatch (email : String) : Fault :=
  ⟨.credentialMismatch, s!"credential mismatch for user {email}"⟩

/-! ### Printed forms -/

/-- One line: heading and text. -/
def simple (f : Fault) : String := s!"{f.kind.title}: {f.message}"

/-- Two lines: code and heading, then the text indented by two blanks. -/
def report (f : Fault) : String := s!"[ERROR] {f.kind.code} {f.kind.title}\n  {f.message}"

end Fault

end ShortLinks
