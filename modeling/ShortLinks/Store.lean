import ShortLinks.Keeper.Basic
import ShortLinks.Deletion.Tombstone

/-!
The store: two tables in memory, links by key and users by address, over a keeper. Reads go to
the tables alone. Writes go to the keeper first and then bring the tables in line with its
answer; only a batch is merged into the table before the keeper has answered, and stays there if
the keeper fails.
-/

namespace ShortLinks

/-- The tables of a store. -/
structure Store where
  links : LinkMap := ∅
  users : UserMap := ∅

/-- What a call answers, the tables and the keeper afterwards. -/
structure Store.Outcome (σ α : Type) where
  answer : Except Fault α
  store : Store
  keeper : σ

namespace Store

variable {σ : Type}

/-! ### Batches in memory -/

/-- An entry with its short link and its identity filled in, under its own key. -/
def normaliseEntry (fresh : String → String) (entry : String × Link) : String × Link :=
  let link := (entry.2.fillShortUrl entry.1).ensureId (fresh entry.1)
  (link.key, link)

/-- The entries, taken in this order, under their own keys; a later one replaces an earlier one
with the same key. -/
def normaliseEntries (fresh : String → String) (entries : List (String × Link)) : LinkMap :=
  entries.foldl (fun links entry =>
    let (key, link) := normaliseEntry fresh entry
    links.insert key link) ∅

/-- The batch under its own keys. -/
def normaliseBatch (fresh : String → String) (batch : LinkMap) : LinkMap :=
  normaliseEntries fresh batch.toList

/-- Does a link of the table lead to this address? -/
def leadsTo (links : LinkMap) (url : String) : Bool :=
  links.toList.any fun entry => entry.2.originalUrl = url

/-- The table with one more entry, unless its key or its address is taken. -/
def mergeEntry (links : LinkMap) (entry : String × Link) : LinkMap :=
  if links.contains entry.1 || leadsTo links entry.2.originalUrl then links
  else links.insert entry.1 entry.2

/-- The table with the entries that find their key and address free, taken in this order. -/
def mergeEntries (links : LinkMap) (entries : List (String × Link)) : LinkMap :=
  entries.foldl mergeEntry links

/-- The table corrected for one entry that the keeper skipped: what this batch put under the
requested key goes, and the link that stood in the way comes in under its own key. -/
def reconcileEntry (batch links : LinkMap) (skip : String × Link) : LinkMap :=
  let (requested, holder) := skip
  let ours := match batch[requested]?, links[requested]? with
    | some mine, some current => mine.id = current.id
    | _, _ => false
  let links := if requested ≠ holder.key && ours then links.erase requested else links
  links.insert holder.key holder

/-- The table corrected for all entries that the keeper skipped. -/
def reconcile (batch links : LinkMap) (skipped : List (String × Link)) : LinkMap :=
  skipped.foldl (reconcileEntry batch) links

/-! ### Writing -/

section Writing

variable [Keeper σ]

/-- The store over a keeper, with what the keeper holds; a table that it cannot load is empty. -/
def ofKeeper (keeper : σ) : Store × σ :=
  let (links, keeper) := Keeper.load keeper
  let (users, keeper) := Keeper.loadUsers keeper
  (⟨links.toOption.getD ∅, users.toOption.getD ∅⟩, keeper)

/-- Inserts a link; the table holds what the keeper holds. -/
def insertLink (store : Store) (keeper : σ) (fresh key : String) (link : Link) :
    Outcome σ (Inserted Link) :=
  match Keeper.save fresh key link keeper with
  | (.ok inserted, keeper) =>
      let stored := inserted.record
      ⟨.ok inserted, { store with links := store.links.insert stored.key stored }, keeper⟩
  | (.error fault, keeper) => ⟨.error fault, store, keeper⟩

/-- Inserts a user; the table holds what the keeper holds. -/
def insertUser (store : Store) (keeper : σ) (fresh email : String) (user : User) :
    Outcome σ (Inserted User) :=
  match Keeper.saveUser fresh email user keeper with
  | (.ok inserted, keeper) =>
      let stored := inserted.record
      ⟨.ok inserted, { store with users := store.users.insert stored.email stored }, keeper⟩
  | (.error fault, keeper) => ⟨.error fault, store, keeper⟩

/-- Inserts a batch whose normal form is `batch` and is merged into the table in the order of
`entries`. -/
def insertNormalised (store : Store) (keeper : σ) (fresh : String → String) (batch : LinkMap)
    (entries : List (String × Link)) : Outcome σ BatchReport :=
  let merged := mergeEntries store.links entries
  match Keeper.saveBatch fresh batch keeper with
  | (.ok report, keeper) =>
      ⟨.ok report, { store with links := reconcile batch merged report.skipped }, keeper⟩
  | (.error fault, keeper) => ⟨.error fault, { store with links := merged }, keeper⟩

/-- Inserts a batch. An empty one does not reach the keeper. -/
def insertBatch (store : Store) (keeper : σ) (fresh : String → String) (batch : LinkMap) :
    Outcome σ BatchReport :=
  if batch.isEmpty then ⟨.ok {}, store, keeper⟩
  else
    let normal := normaliseBatch fresh batch
    insertNormalised store keeper fresh normal normal.toList

/-- Deletes links. Requests without any key do not reach the keeper. -/
def deleteLinks (store : Store) (keeper : σ) (requests : List DeletionRequest) :
    Outcome σ Unit :=
  if requests.all (·.keys.isEmpty) then ⟨.ok (), store, keeper⟩
  else
    match Keeper.updateBatch requests keeper with
    | (.ok (), keeper) =>
        ⟨.ok (), { store with links := (LinkMap.tombstone store.links requests).1 }, keeper⟩
    | (.error fault, keeper) => ⟨.error fault, store, keeper⟩

end Writing

/-! ### Reading -/

/-- The link that a short link names. -/
def getLink (store : Store) (shortUrl : String) : Except Fault Link :=
  match store.links[keyOf shortUrl]? with
  | some link => .ok link
  | none => .error (.noSuchLink (keyOf shortUrl))

/-- The user with an address. -/
def getUser (store : Store) (email : String) : Except Fault User :=
  match store.users[email]? with
  | some user => .ok user
  | none => .error (.noSuchUser email)

/-- Links by ascending short links; equal ones stay in order. -/
def sortLinks (links : List Link) : List Link :=
  links.mergeSort fun a b => decide (a.shortUrl ≤ b.shortUrl)

/-- All links of a user, deleted ones too, by ascending short links. -/
def linksOf (store : Store) (user : String) : List Link :=
  sortLinks (store.links.values.filter (·.isOwnedBy user))

/-- The number of links in the table. -/
def size (store : Store) : Nat := store.links.size

end Store

end ShortLinks
