import ShortLinks.Link.Basic
import ShortLinks.Json.Reader
import ShortLinks.Json.Writer

/-!
Links as JSON records. Identity, owner and tombstone mark may be left out.
-/

namespace ShortLinks.Link

/-- The names of the fields, in order. -/
def fieldNames : List String :=
  ["correlation_id", "short_url", "original_url", "user_id", "is_deleted"]

/-- The record of a link. -/
def toJson (l : Link) : Json :=
  .record [
    ("correlation_id", .text l.id),
    ("short_url", .text l.shortUrl),
    ("original_url", .text l.originalUrl),
    ("user_id", match l.owner with | some user => .text user | none => .null),
    ("is_deleted", .bool l.deleted)]

/-- The link that a record describes. -/
def ofJson? (j : Json) : Option Link := do
  let fields ← j.fields? fieldNames
  return {
    id := ← fields.defaulted? "correlation_id" Json.text? ""
    shortUrl := ← fields.required? "short_url" Json.text?
    originalUrl := ← fields.required? "original_url" Json.text?
    owner := ← fields.defaulted? "user_id" (Json.optional? Json.text?) none
    deleted := ← fields.defaulted? "is_deleted" Json.bool? false }

end ShortLinks.Link
