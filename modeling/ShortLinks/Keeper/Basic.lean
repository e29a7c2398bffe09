import ShortLinks.Insertion
import ShortLinks.Deletion.Request
import ShortLinks.User.Basic

/-!
What a keeper does: it stores links and users beyond the tables of the engine. A keeper is given
by its state; each call answers with a result or a fault and the state afterwards.

Fresh identities are handed in by the caller, one for a single record and one per requested key
for a batch, so that every call is a function of its arguments.
-/

namespace ShortLinks

/-- A call on a state: a result or a fault, and the state afterwards. -/
abbrev Call (σ α : Type) : Type := σ → Except Fault α × σ

/-- The calls that a store makes on its keeper. -/
class Keeper (σ : Type) where
  /-- All links under their keys. -/
  load : Call σ LinkMap
  /-- All users under their addresses. -/
  loadUsers : Call σ UserMap
  /-- Stores a link, unless its address or its key is taken. -/
  save (fresh key : String) (link : Link) : Call σ (Inserted Link)
  /-- Stores a user, unless the address is taken; a password must then match. -/
  saveUser (fresh email : String) (user : User) : Call σ (Inserted User)
  /-- Stores the links of a batch whose addresses and keys are free. -/
  saveBatch (fresh : String → String) (batch : LinkMap) : Call σ BatchReport
  /-- Sets the tombstone marks that the requests ask for. -/
  updateBatch (requests : List DeletionRequest) : Call σ Unit
  /-- The number of stored links. -/
  countLinks : Call σ Nat
  /-- The number of stored users. -/
  countUsers : Call σ Nat
  /-- Is the keeper in working order? -/
  ping : σ → Bool
  /-- Gives back what the keeper holds; whether that went well. -/
  close : σ → Bool × σ
  /-- The name of the kind of keeper. -/
  name : σ → String

end ShortLinks
