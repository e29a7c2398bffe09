import ShortLinks.Database.Failure
import ShortLinks.Link.Basic
import ShortLinks.User.Basic

/-!
The two tables of the database. Rows stand in the order of their insertion. Identity, short link
and address of a link are each unique, byte for byte, and so are identity and mail address of a
user; a row that would break this is not added. A table may be missing.
-/

namespace ShortLinks

/-- A row of the table of links. -/
structure LinkRow where
  id : String
  shortUrl : String
  originalUrl : String
  owner : Option String
  deleted : Bool
deriving DecidableEq, Inhabited

/-- The link of a row; an empty owner counts as none. -/
def LinkRow.toLink (r : LinkRow) : Link :=
  ⟨r.id, r.shortUrl, r.originalUrl, r.owner.filter (!·.isEmpty), r.deleted⟩

/-- The row of a link. -/
def Link.toRow (l : Link) : LinkRow := ⟨l.id, l.shortUrl, l.originalUrl, l.owner, l.deleted⟩

/-- The key under which a row is found. -/
def LinkRow.key (r : LinkRow) : String := keyOf r.shortUrl

/-- The two tables, `none` for one that is missing. -/
structure Database where
  links : Option (List LinkRow) := some []
  users : Option (List User) := some []
deriving Inhabited

namespace Database

/-! ### Unique columns -/

/-- A column that a new row would break, or rather the table and the column. -/
inductive Unique where
  | linkId
  | linkShortUrl
  | linkOriginalUrl
  | userId
  | userEmail
deriving DecidableEq

/-- The names of the table and the column, and whether it is the primary key. -/
def Unique.place : Unique → String × Bool
  | .linkId => ("dataurl.correlation_id", true)
  | .linkShortUrl => ("dataurl.short_url", false)
  | .linkOriginalUrl => ("dataurl.original_url", false)
  | .userId => ("users.id", true)
  | .userEmail => ("users.email", false)

/-- The failure of a statement that would break a unique column. -/
def Unique.failure (u : Unique) : DatabaseFailure :=
  let (column, primary) := u.place
  let code := if primary then "1555" else "2067"
  .query (.server (some code) s!"(code: {code}) UNIQUE constraint failed: {column}")

/-- The failure of a statement on a table that is missing. -/
def missingTable (table : String) : DatabaseFailure :=
  .query (.server (some "1") s!"(code: 1) no such table: {table}")

/-- The name of the table of links. -/
def linksTable : String := "dataurl"

/-- The name of the table of users. -/
def usersTable : String := "users"

/-- Adds a row to the links, or names the column in the way: the address goes first, then the
short link, then the identity. -/
def addLink (rows : List LinkRow) (row : LinkRow) : Except Unique (List LinkRow) :=
  if rows.any (·.originalUrl = row.originalUrl) then .error .linkOriginalUrl
  else if rows.any (·.shortUrl = row.shortUrl) then .error .linkShortUrl
  else if rows.any (·.id = row.id) then .error .linkId
  else .ok (rows ++ [row])

/-- Adds rows in order; one whose address is taken is left out, and any other clash fails. -/
def addLinks (rows : List LinkRow) : List LinkRow → Except Unique (List LinkRow)
  | [] => .ok rows
  | row :: rest =>
      match addLink rows row with
      | .ok more => addLinks more rest
      | .error .linkOriginalUrl => addLinks rows rest
      | .error clash => .error clash

/-- Adds a row to the users, or names the column in the way: the mail address goes first. -/
def addUser (rows : List User) (row : User) : Except Unique (List User) :=
  if rows.any (·.email = row.email) then .error .userEmail
  else if rows.any (·.id = row.id) then .error .userId
  else .ok (rows ++ [row])

/-! ### Rows in the way -/

/-- The row in the way of a link: the one with its address, else the one with its short link. -/
def conflicting? (rows : List LinkRow) (originalUrl shortUrl : String) : Option LinkRow :=
  rows.find? (·.originalUrl = originalUrl) <|> rows.find? (·.shortUrl = shortUrl)

/-- The rows with one of the addresses or one of the short links. -/
def conflictingAll (rows : List LinkRow) (originalUrls shortUrls : List String) :
    List LinkRow :=
  rows.filter fun r => originalUrls.contains r.originalUrl || shortUrls.contains r.shortUrl

/-! ### Tombstones -/

/-- Does a pair of a user and a key ask to delete the row? -/
def isAskedFor (pairs : List (String × String)) (r : LinkRow) : Bool :=
  match r.owner with
  | some owner => pairs.contains (owner, r.key)
  | none => false

/-- The rows after one transaction that marks what the pairs ask for: the identities of the rows
are found first, and then the rows with these identities are marked. -/
def markRows (rows : List LinkRow) (pairs : List (String × String)) : List LinkRow :=
  let ids := (rows.filter fun r => !r.deleted && isAskedFor pairs r).map (·.id)
  rows.map fun r => if ids.contains r.id then { r with deleted := true } else r

end Database

end ShortLinks
