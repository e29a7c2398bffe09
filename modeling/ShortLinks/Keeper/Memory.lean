import ShortLinks.Keeper.Basic
import ShortLinks.Keeper.LinkIndex
import ShortLinks.Keeper.UserIndex

/-!
The keeper that stores nothing beyond its own life: two indexes. It does not count as a working
store, so `ping` is always false.
-/

namespace ShortLinks

/-- The indexes of links and users. -/
structure MemoryKeeper where
  links : LinkIndex := {}
  users : UserIndex := {}

namespace MemoryKeeper

/-- Stores a link. -/
def save (fresh key : String) (link : Link) : Call MemoryKeeper (Inserted Link) := fun k =>
  let (inserted, links) := k.links.insert fresh key link
  (.ok inserted, { k with links := links })

/-- Stores a user. -/
def saveUser (fresh email : String) (user : User) : Call MemoryKeeper (Inserted User) := fun k =>
  let (answer, users) := k.users.insert fresh email user
  (answer, { k with users := users })

/-- Stores a batch. -/
def saveBatch (fresh : String → String) (batch : LinkMap) : Call MemoryKeeper BatchReport :=
  fun k =>
    let r := k.links.insertBatch fresh batch
    (.ok r.report, { k with links := r.index })

/-- Sets tombstone marks. -/
def updateBatch (requests : List DeletionRequest) : Call MemoryKeeper Unit := fun k =>
  (.ok (), { k with links := (k.links.tombstone requests).1 })

instance : Keeper MemoryKeeper where
  load k := (.ok k.links.byKey, k)
  loadUsers k := (.ok k.users.byEmail, k)
  save := save
  saveUser := saveUser
  saveBatch := saveBatch
  updateBatch := updateBatch
  countLinks k := (.ok k.links.size, k)
  countUsers k := (.ok k.users.size, k)
  ping _ := false
  close k := (true, k)
  name _ := "memory"

end MemoryKeeper

end ShortLinks
