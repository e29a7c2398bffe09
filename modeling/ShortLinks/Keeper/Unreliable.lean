import ShortLinks.Keeper.Basic

/-!
A keeper that may be out of reach. While it is down every call fails and changes nothing; while
it is up the keeper behind it answers.
-/

namespace ShortLinks

/-- A keeper and whether it is out of reach. -/
structure Unreliable (σ : Type) where
  inner : σ
  down : Bool := false

namespace Unreliable

variable {σ α : Type}

/-- The fault of every call while the keeper is down. -/
def unreachable : Fault := ⟨.databaseConnection, "backend unreachable"⟩

/-- A call of the keeper behind, which fails while it is down. -/
def guarded (call : Call σ α) : Call (Unreliable σ) α := fun k =>
  if k.down then (.error unreachable, k)
  else
    let (answer, inner) := call k.inner
    (answer, { k with inner := inner })

instance [Keeper σ] : Keeper (Unreliable σ) where
  load := guarded Keeper.load
  loadUsers := guarded Keeper.loadUsers
  save fresh key link := guarded (Keeper.save fresh key link)
  saveUser fresh email user := guarded (Keeper.saveUser fresh email user)
  saveBatch fresh batch := guarded (Keeper.saveBatch fresh batch)
  updateBatch requests := guarded (Keeper.updateBatch requests)
  countLinks := guarded Keeper.countLinks
  countUsers := guarded Keeper.countUsers
  ping k := !k.down
  close k := (!k.down, k)
  name _ := "flaky"

end Unreliable

end ShortLinks
