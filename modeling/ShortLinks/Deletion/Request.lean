import ShortLinks.Json.Reader
import ShortLinks.Json.Writer

/-!
Requests of a user to delete links by their short keys. Two requests of one user are merged into
one that asks for each key of the second only if the first lacks it.
-/

namespace ShortLinks

/-- A request to delete links. -/
structure DeletionRequest where
  owner : String
  keys : List String
deriving DecidableEq, Inhabited

namespace DeletionRequest

/-- The list with a key at its end, unless it is there already. -/
def addKey (keys : List String) (key : String) : List String :=
  if keys.contains key then keys else keys ++ [key]

/-- The request that also asks for the keys of another one, in their order. -/
def merge (r other : DeletionRequest) : DeletionRequest :=
  { r with keys := other.keys.foldl addKey r.keys }

/-- The owner with each of the keys. -/
def pairs (r : DeletionRequest) : List (String × String) := r.keys.map fun key => (r.owner, key)

/-- The names of the fields, in order. -/
def fieldNames : List String := ["user_id", "short_url"]

/-- The record of a request. -/
def toJson (r : DeletionRequest) : Json :=
  .record [("user_id", .text r.owner), ("short_url", .array (r.keys.map .text))]

/-- The request that a record describes. -/
def ofJson? (j : Json) : Option DeletionRequest := do
  let fields ← j.fields? fieldNames
  return {
    owner := ← fields.required? "user_id" Json.text?
    keys := ← fields.required? "short_url" Json.texts? }

end DeletionRequest

end ShortLinks
