import ShortLinks.Json.Reader
import ShortLinks.Json.Writer
import Std.Data.ExtTreeMap

/-!
Users, who are known by their mail address, and their JSON records.
-/

namespace ShortLinks

/-- A user. -/
structure User where
  /-- The identity of the record, empty until one is assigned. -/
  id : String := ""
  email : String
  /-- The hash of the password, empty if the user has none. -/
  passwordHash : String := ""
  displayName : String := ""
deriving DecidableEq, Inhabited

/-- Users under their addresses, in byte order. -/
abbrev UserMap := Std.ExtTreeMap String User

namespace User

/-- The user, with the fresh identity if there is none yet. -/
def ensureId (u : User) (fresh : String) : User :=
  if u.id.isEmpty then { u with id := fresh } else u

/-- The user, with the address filled in if it is empty. -/
def fillEmail (u : User) (email : String) : User :=
  if u.email.isEmpty then { u with email := email } else u

/-- The names of the fields, in order. -/
def fieldNames : List String := ["id", "email", "hash", "name"]

/-- The record of a user. -/
def toJson (u : User) : Json :=
  .record [("id", .text u.id), ("email", .text u.email), ("hash", .text u.passwordHash),
    ("name", .text u.displayName)]

/-- The user that a record describes; only the address must be there. -/
def ofJson? (j : Json) : Option User := do
  let fields ← j.fields? fieldNames
  return {
    id := ← fields.defaulted? "id" Json.text? ""
    email := ← fields.required? "email" Json.text?
    passwordHash := ← fields.defaulted? "hash" Json.text? ""
    displayName := ← fields.defaulted? "name" Json.text? "" }

end User

end ShortLinks
