import ShortLinks.Insertion
import ShortLinks.Deletion.Tombstone

/-!
The index of stored links. It finds a link by its key and by the address it leads to, and lets
neither be taken twice: `insert` answers with the link in the way, first the holder of the
address, else the holder of the key.
-/

namespace ShortLinks

/-- Stored links by key, and the key of each address. -/
structure LinkIndex where
  byKey : LinkMap := ∅
  keyByUrl : Std.ExtTreeMap String String := ∅

namespace LinkIndex

/-- The index with one more entry, which goes over older ones. -/
def put (index : LinkIndex) (entry : String × Link) : LinkIndex :=
  { byKey := index.byKey.insert entry.1 entry.2
    keyByUrl := index.keyByUrl.insert entry.2.originalUrl entry.1 }

/-- The index of entries that are taken in this order. -/
def ofList (entries : List (String × Link)) : LinkIndex := entries.foldl put {}

/-- The index of a table. -/
def ofMap (links : LinkMap) : LinkIndex := ofList links.toList

/-- The number of links. -/
def size (index : LinkIndex) : Nat := index.byKey.size

/-- The link that holds this address or else this key. -/
def holder? (index : LinkIndex) (key url : String) : Option Link :=
  (index.keyByUrl[url]?.bind fun k => index.byKey[k]?) <|> index.byKey[key]?

/-- Stores a link under its own key, unless its key or its address is taken. The key given here
only fills in an empty short link. -/
def insert (index : LinkIndex) (fresh key : String) (link : Link) : Inserted Link × LinkIndex :=
  let link := link.fillShortUrl key
  match index.holder? link.key link.originalUrl with
  | some holder => (.existing holder, index)
  | none =>
      let link := link.ensureId fresh
      (.created link, index.put (link.key, link))

/-- Takes back the insertion of a link. -/
def remove (index : LinkIndex) (link : Link) : LinkIndex :=
  if index.byKey[link.key]?.any (·.id = link.id) then
    { byKey := index.byKey.erase link.key
      keyByUrl := index.keyByUrl.erase link.originalUrl }
  else index

/-- What a batch did to an index: the report, the links that were stored, in order, and the
index afterwards. -/
structure BatchResult where
  report : BatchReport
  created : List Link
  index : LinkIndex

/-- Inserts the entries in this order. -/
def insertEntries (fresh : String → String) (index : LinkIndex) :
    List (String × Link) → BatchResult
  | [] => ⟨{}, [], index⟩
  | (key, link) :: rest =>
      match index.insert (fresh key) key link with
      | (.created stored, after) =>
          let r := insertEntries fresh after rest
          ⟨{ r.report with inserted := r.report.inserted + 1 }, stored :: r.created, r.index⟩
      | (.existing holder, after) =>
          let r := insertEntries fresh after rest
          ⟨{ r.report with skipped := (key, holder) :: r.report.skipped }, r.created, r.index⟩

/-- Inserts a batch, by ascending keys. -/
def insertBatch (index : LinkIndex) (fresh : String → String) (batch : LinkMap) : BatchResult :=
  insertEntries fresh index batch.toList

/-- Sets the marks that the requests ask for, and says whether any was set. -/
def tombstone (index : LinkIndex) (requests : List DeletionRequest) : LinkIndex × Bool :=
  let (links, changed) := LinkMap.tombstone index.byKey requests
  ({ index with byKey := links }, changed)

end LinkIndex

end ShortLinks
