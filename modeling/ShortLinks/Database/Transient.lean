import ShortLinks.Database.Failure
import ShortLinks.Text.Lower

/-!
Failures that pass by themselves: lost connections and conflicts of locks. A code that the
database sent decides alone; without one the text is searched.
-/

namespace ShortLinks

/-- Kinds of failures after which trying again makes sense. -/
inductive Transient where
  | connection
  | deadlock
  | lockTimeout
  | serialization
  | busy
deriving DecidableEq

namespace Transient

/-- The name of a kind. -/
def name : Transient → String
  | .connection => "connection"
  | .deadlock => "deadlock"
  | .lockTimeout => "lock_timeout"
  | .serialization => "serialization"
  | .busy => "busy"

/-- The kind of an error code. -/
def ofCode? (code : String) : Option Transient :=
  if code = "1213" ∨ code = "40P01" then some .deadlock
  else if code = "1205" then some .lockTimeout
  else if code = "40001" then some .serialization
  else if code = "5" ∨ code = "6" then some .busy
  else none

/-- The phrases that are searched for, in this order. -/
def phrases : List (String × Transient) :=
  [("deadlock", .deadlock), ("lock wait timeout", .lockTimeout),
    ("database is locked", .busy), ("serialization failure", .serialization)]

/-- The kind of a text, whatever the case of its letters. -/
def ofText? (text : String) : Option Transient :=
  let lower := Text.lower text.toList
  (phrases.find? fun p => Text.holds p.1.toList lower).map (·.2)

/-- The kind of a failure below a call. -/
def ofDriver? : DriverFailure → Option Transient
  | .server (some code) _ => ofCode? code
  | failure => ofText? failure.text

/-- The kind of a failed call. -/
def of? : DatabaseFailure → Option Transient
  | .acquireTimeout | .acquireClosed | .connect _ => some .connection
  | .execute cause | .query cause => ofDriver? cause
  | _ => none

end Transient

/-- A failed call as a fault with its context: a lost connection is told apart from the rest. -/
def DatabaseFailure.within (context : String) (f : DatabaseFailure) : Fault :=
  let kind : FaultKind :=
    if Transient.of? f = some .connection then .databaseConnection else .databaseOperation
  ⟨kind, s!"{context}: {f.text}"⟩

end ShortLinks
