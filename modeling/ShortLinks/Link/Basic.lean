import ShortLinks.Link.Key
import Std.Data.ExtTreeMap

/-!
Links. A link sends a short key on to an address; it may have an owner, and a deleted link stays
as a tombstone under its key.
-/

namespace ShortLinks

/-- A link. -/
structure Link where
  /-- The identity of the record, empty until one is assigned. -/
  id : String := ""
  /-- The short link: a bare key or an address that ends in it. -/
  shortUrl : String
  /-- The address that the link leads to. -/
  originalUrl : String
  /-- Who made the link; links without an owner belong to nobody. -/
  owner : Option String := none
  /-- The tombstone mark. -/
  deleted : Bool := false
deriving DecidableEq, Inhabited

/-- Links under their keys, in byte order of the keys. -/
abbrev LinkMap := Std.ExtTreeMap String Link

namespace Link

/-- The key of a link. -/
def key (l : Link) : String := keyOf l.shortUrl

/-- Is the link owned by this user? -/
def isOwnedBy (l : Link) (user : String) : Bool := l.owner = some user

/-- The link with an owner. -/
def withOwner (l : Link) (user : String) : Link := { l with owner := some user }

/-- The link with an identity. -/
def withId (l : Link) (id : String) : Link := { l with id := id }

/-- The link, with the fresh identity if it has none yet. -/
def ensureId (l : Link) (fresh : String) : Link := if l.id.isEmpty then l.withId fresh else l

/-- The link, with its short link filled in by a key if it is empty. -/
def fillShortUrl (l : Link) (key : String) : Link :=
  if l.shortUrl.isEmpty then { l with shortUrl := key } else l

/-- The link as a tombstone. -/
def markDeleted (l : Link) : Link := { l with deleted := true }

end Link

end ShortLinks
