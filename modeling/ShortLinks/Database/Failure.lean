import ShortLinks.Fault.Basic

/-!
Failures of a database call, by the place where they arose, and their texts.
-/

namespace ShortLinks

/-- What went wrong below a database call. -/
inductive DriverFailure where
  /-- A failure inside the client, with its text. -/
  | internal (text : String)
  /-- An error that the database sent, with its code if it has one. -/
  | server (code : Option String) (text : String)
  /-- An answer that could not be read. -/
  | protocol (text : String)
  /-- No connection became free in time. -/
  | poolTimedOut
  /-- A row was expected, and there was none. -/
  | rowNotFound
deriving DecidableEq, Inhabited

/-- The text of a failure below a database call. -/
def DriverFailure.text : DriverFailure → String
  | .internal text => text
  | .server _ text => s!"error returned from database: {text}"
  | .protocol text => s!"encountered unexpected or invalid data: {text}"
  | .poolTimedOut => "pool timed out while waiting for an open connection"
  | .rowNotFound => "no rows returned by a query that expected to return at least one row"

/-- A failed database call. -/
inductive DatabaseFailure where
  | connect (cause : DriverFailure)
  | execute (cause : DriverFailure)
  | query (cause : DriverFailure)
  /-- The pool gave no connection in time. -/
  | acquireTimeout
  /-- The pool is closed. -/
  | acquireClosed
  | custom (text : String)
  | recordNotFound (text : String)
  | recordNotInserted
  | recordNotUpdated
  | typeMismatch (text : String)
  | json (text : String)
  | migration (text : String)
  | attributeNotSet (name : String)
  | unpackInsertId
deriving DecidableEq, Inhabited

namespace DatabaseFailure

/-- The text of a failed call. -/
def text : DatabaseFailure → String
  | .connect cause => s!"Connection Error: {cause.text}"
  | .execute cause => s!"Execution Error: {cause.text}"
  | .query cause => s!"Query Error: {cause.text}"
  | .acquireTimeout => "Failed to acquire connection from pool: Connection pool timed out"
  | .acquireClosed => "Failed to acquire connection from pool: Connection closed"
  | .custom text => s!"Custom Error: {text}"
  | .recordNotFound text => s!"RecordNotFound Error: {text}"
  | .recordNotInserted => "None of the records are inserted"
  | .recordNotUpdated => "None of the records are updated"
  | .typeMismatch text => s!"Type Error: {text}"
  | .json text => s!"Json Error: {text}"
  | .migration text => s!"Migration Error: {text}"
  | .attributeNotSet name => s!"Attribute {name} is NotSet"
  | .unpackInsertId => "Failed to unpack last_insert_id"

/-- A failed call as a fault of a database operation. -/
def toFault (f : DatabaseFailure) : Fault := ⟨.databaseOperation, f.text⟩

end DatabaseFailure

end ShortLinks
