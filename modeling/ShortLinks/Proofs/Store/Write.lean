import ShortLinks.Proofs.Keeper.Indexed
import ShortLinks.Proofs.Store.Batch

/-!
Writes to a store over a keeper.

* `Write`, `Attempt` — the calls that change a store, and the same calls on a keeper that may be
  out of reach.
* `Store.insertLink_undone`, `Store.deleteLinks_eq_of_ok` and their like — what a store makes of the
  answer of its keeper, whichever keeper it is.
* `Write.books` — what the two sides hold: the table in memory and the index of the keeper.
* `Write.books_next_of_ok`, `Write.books_next_of_error` — what a write does to them, whichever
  keeper it is: its `effect` if it succeeds, its `residue` if it fails.
* `Books.Orderly`, `Books.Covered` — laws of the two sides that every write preserves, and every
  write that succeeds.
-/

namespace ShortLinks

/-! ### Writes -/

/-- A call that writes to a store. -/
inductive Write where
  | link (fresh key : String) (link : Link)
  | user (fresh email : String) (user : User)
  | batch (call : BatchCall)
  | deletion (requests : List DeletionRequest)

/-- The outcome of a call, of whose answer only the success counts. -/
def Store.Outcome.status {σ α : Type} (outcome : Outcome σ α) : Outcome σ Unit :=
  { outcome with answer := outcome.answer.map fun _ => () }

theorem Store.Outcome.of_status_ok {σ α : Type} {outcome : Outcome σ α}
    (ok : outcome.status.answer = .ok ()) : ∃ value, outcome.answer = .ok value := by
  cases answer : outcome.answer with
  | ok value => exact ⟨value, rfl⟩
  | error fault =>
      rw [status, answer] at ok
      cases ok

theorem Store.Outcome.of_status_ne_ok {σ α : Type} {outcome : Outcome σ α}
    (failed : outcome.status.answer ≠ .ok ()) : ∃ fault, outcome.answer = .error fault := by
  cases answer : outcome.answer with
  | error fault => exact ⟨fault, rfl⟩
  | ok value =>
      rw [status, answer] at failed
      exact absurd rfl failed

/-- The table in memory and the index of the keeper. -/
abbrev Books := LinkMap × LinkIndex

namespace Write

/-- What a write that succeeds does to table and index. -/
def effect : Write → Books → Books
  | .link fresh key record, (table, index) =>
      let (inserted, after) := index.insert fresh key record
      (table.insert inserted.record.key inserted.record, after)
  | .user .., books => books
  | .batch call, (table, index) => (call.settle table index, (call.filed index).index)
  | .deletion requests, (table, index) =>
      ((LinkMap.tombstone table requests).1, (index.tombstone requests).1)

/-- What a write that fails does to table and index. -/
def residue : Write → Books → Books
  | .batch call, (table, index) => (call.merge table, index)
  | _, books => books

section Performing

variable {σ : Type} [Keeper σ]

/-- Performs a write. -/
def outcome (write : Write) (state : Store × σ) : Store.Outcome σ Unit :=
  match write with
  | .link fresh key record => (state.1.insertLink state.2 fresh key record).status
  | .user fresh email record => (state.1.insertUser state.2 fresh email record).status
  | .batch call => (state.1.insertInOrder state.2 call).status
  | .deletion requests => (state.1.deleteLinks state.2 requests).status

/-- Does the write succeed? -/
def Succeeds (state : Store × σ) (write : Write) : Prop := (write.outcome state).answer = .ok ()

instance (state : Store × σ) (write : Write) : Decidable (write.Succeeds state) :=
  match answer : (write.outcome state).answer with
  | .ok () => isTrue answer
  | .error _ => isFalse (by simp [Succeeds, answer])

/-- Store and keeper after a write. -/
def next (state : Store × σ) (write : Write) : Store × σ :=
  ((write.outcome state).store, (write.outcome state).keeper)

variable [IndexedKeeper σ]

/-- What a store and its keeper hold. -/
def books (state : Store × σ) : Books := (state.1.links, IndexedKeeper.index state.2)

end Performing

end Write

/-! ### What the two sides hold -/

namespace Store

/-! ### What a store does with the answer of its keeper -/

section Answers

variable {σ : Type} [Keeper σ] {store : Store} {keeper : σ} {fault : Fault}

/-- A store does nothing if its keeper fails to save a link. -/
theorem insertLink_undone {fresh key : String} {link : Link}
    (failed : (store.insertLink keeper fresh key link).answer = .error fault) :
    (store.insertLink keeper fresh key link).store = store ∧
      Keeper.save fresh key link keeper
        = (.error fault, (store.insertLink keeper fresh key link).keeper) := by
  unfold insertLink at failed ⊢
  cases answered : Keeper.save fresh key link keeper with
  | mk answer after =>
      rw [answered] at failed
      cases answer with
      | ok inserted => cases failed
      | error other =>
          cases failed
          exact ⟨rfl, rfl⟩

theorem insertUser_undone {fresh email : String} {user : User}
    (failed : (store.insertUser keeper fresh email user).answer = .error fault) :
    (store.insertUser keeper fresh email user).store = store ∧
      Keeper.saveUser fresh email user keeper
        = (.error fault, (store.insertUser keeper fresh email user).keeper) := by
  unfold insertUser at failed ⊢
  cases answered : Keeper.saveUser fresh email user keeper with
  | mk answer after =>
      rw [answered] at failed
      cases answer with
      | ok inserted => cases failed
      | error other =>
          cases failed
          exact ⟨rfl, rfl⟩

theorem deleteLinks_undone {requests : List DeletionRequest}
    (failed : (store.deleteLinks keeper requests).answer = .error fault) :
    (store.deleteLinks keeper requests).store = store ∧
      Keeper.updateBatch requests keeper
        = (.error fault, (store.deleteLinks keeper requests).keeper) := by
  unfold deleteLinks at failed ⊢
  split at failed
  · cases failed
  · next asks =>
      rw [if_neg asks]
      cases answered : Keeper.updateBatch requests keeper with
      | mk answer after =>
          rw [answered] at failed
          cases answer with
          | ok done => cases failed
          | error other =>
              cases failed
              exact ⟨rfl, rfl⟩

/-- Requests without any key mark nothing. -/
theorem pairs_of_noKeys {requests : List DeletionRequest}
    (noKeys : requests.all (·.keys.isEmpty) = true) :
    requests.flatMap DeletionRequest.pairs = [] := by
  rw [List.flatMap_eq_nil_iff]
  intro request mem
  have blank : request.keys = [] := List.isEmpty_iff.mp (List.all_eq_true.mp noKeys request mem)
  rw [DeletionRequest.pairs, blank, List.map_nil]

/-- Deletions that the keeper takes mark the table. -/
theorem deleteLinks_eq_of_ok {requests : List DeletionRequest}
    (ok : (store.deleteLinks keeper requests).answer = .ok ()) :
    (store.deleteLinks keeper requests).store
      = { store with links := (LinkMap.tombstone store.links requests).1 } := by
  unfold deleteLinks at ok ⊢
  split at ok
  · next noKeys =>
      simp only [noKeys, if_true, LinkMap.tombstone, pairs_of_noKeys noKeys]
      rfl
  · next keys =>
      simp only [keys]
      cases answered : Keeper.updateBatch requests keeper with
      | mk answer after =>
          rw [answered] at ok
          cases answer with
          | error fault => cases ok
          | ok answer => rfl

end Answers

/-! ### Indexed keepers -/

variable {σ : Type} [Keeper σ] [IndexedKeeper σ]

/-- **A batch that succeeds** answers with what the index reports, and settles the table. -/
theorem insertInOrder_of_ok {store : Store} {keeper : σ} {call : BatchCall} {report : BatchReport}
    (ok : (store.insertInOrder keeper call).answer = .ok report) :
    report = (call.filed (IndexedKeeper.index keeper)).report ∧
      (store.insertInOrder keeper call).store.links
        = call.settle store.links (IndexedKeeper.index keeper) ∧
      IndexedKeeper.index (store.insertInOrder keeper call).keeper
        = (call.filed (IndexedKeeper.index keeper)).index := by
  unfold insertInOrder at ok ⊢
  split at ok
  · next blank =>
      obtain ⟨noReport, same, table⟩ :=
        BatchCall.filed_of_isEmpty blank store.links (IndexedKeeper.index keeper)
      cases ok
      simp only [blank, if_true]
      exact ⟨noReport.symm, table.symm, same.symm⟩
  · next entries =>
      simp only [entries]
      unfold insertNormalised at ok ⊢
      dsimp only at ok ⊢
      cases answered : Keeper.saveBatch call.fresh call.normal keeper with
      | mk answer after =>
          rw [answered] at ok
          cases answer with
          | error fault => cases ok
          | ok answer =>
              cases ok
              obtain ⟨rfl, index⟩ := IndexedKeeper.saveBatch_ok answered
              exact ⟨rfl, rfl, index.symm⟩

/-- A batch that fails leaves the merged table behind. -/
theorem insertInOrder_of_error [SteadyKeeper σ] {store : Store} {keeper : σ} {call : BatchCall}
    {fault : Fault} (error : (store.insertInOrder keeper call).answer = .error fault) :
    (store.insertInOrder keeper call).store.links = call.merge store.links ∧
      IndexedKeeper.index (store.insertInOrder keeper call).keeper
        = IndexedKeeper.index keeper := by
  unfold insertInOrder at error ⊢
  split at error
  · cases error
  · next entries =>
      simp only [entries]
      unfold insertNormalised at error ⊢
      dsimp only at error ⊢
      cases answered : Keeper.saveBatch call.fresh call.normal keeper with
      | mk answer after =>
          rw [answered] at error
          cases answer with
          | ok answer => cases error
          | error _ => exact ⟨rfl, SteadyKeeper.saveBatch_error answered⟩

theorem insertLink_of_ok {store : Store} {keeper : σ} {fresh key : String} {record : Link}
    {inserted : Inserted Link}
    (ok : (store.insertLink keeper fresh key record).answer = .ok inserted) :
    (IndexedKeeper.index keeper).insert fresh key record
        = (inserted, IndexedKeeper.index (store.insertLink keeper fresh key record).keeper) ∧
      (store.insertLink keeper fresh key record).store.links
        = store.links.insert inserted.record.key inserted.record := by
  unfold insertLink at ok ⊢
  cases answered : Keeper.save fresh key record keeper with
  | mk answer after =>
      rw [answered] at ok
      cases answer with
      | error fault => cases ok
      | ok answer =>
          cases ok
          exact ⟨IndexedKeeper.save_ok answered, rfl⟩

theorem insertLink_of_error [SteadyKeeper σ] {store : Store} {keeper : σ} {fresh key : String}
    {record : Link} {fault : Fault}
    (error : (store.insertLink keeper fresh key record).answer = .error fault) :
    (store.insertLink keeper fresh key record).store.links = store.links ∧
      IndexedKeeper.index (store.insertLink keeper fresh key record).keeper
        = IndexedKeeper.index keeper := by
  obtain ⟨same, answered⟩ := insertLink_undone error
  exact ⟨congrArg Store.links same, SteadyKeeper.save_error answered⟩

/-- Users do not touch the links. -/
theorem insertUser_links (store : Store) (keeper : σ) (fresh email : String) (record : User) :
    (store.insertUser keeper fresh email record).store.links = store.links ∧
      IndexedKeeper.index (store.insertUser keeper fresh email record).keeper
        = IndexedKeeper.index keeper := by
  unfold insertUser
  cases answered : Keeper.saveUser fresh email record keeper with
  | mk answer after =>
      cases answer with
      | ok answer => exact ⟨rfl, IndexedKeeper.saveUser_index answered⟩
      | error fault => exact ⟨rfl, IndexedKeeper.saveUser_index answered⟩

theorem deleteLinks_of_ok {store : Store} {keeper : σ} {requests : List DeletionRequest}
    (ok : (store.deleteLinks keeper requests).answer = .ok ()) :
    (store.deleteLinks keeper requests).store.links
        = (LinkMap.tombstone store.links requests).1 ∧
      IndexedKeeper.index (store.deleteLinks keeper requests).keeper
        = ((IndexedKeeper.index keeper).tombstone requests).1 := by
  refine ⟨congrArg Store.links (deleteLinks_eq_of_ok ok), ?_⟩
  unfold deleteLinks at ok ⊢
  split at ok
  · next noKeys =>
      simp only [noKeys, if_true, LinkIndex.tombstone, LinkMap.tombstone, pairs_of_noKeys noKeys]
      rfl
  · next keys =>
      simp only [keys]
      cases answered : Keeper.updateBatch requests keeper with
      | mk answer after =>
          rw [answered] at ok
          cases answer with
          | error fault => cases ok
          | ok answer => exact (IndexedKeeper.updateBatch_ok answered).symm

theorem deleteLinks_of_error [SteadyKeeper σ] {store : Store} {keeper : σ}
    {requests : List DeletionRequest} {fault : Fault}
    (error : (store.deleteLinks keeper requests).answer = .error fault) :
    (store.deleteLinks keeper requests).store.links = store.links ∧
      IndexedKeeper.index (store.deleteLinks keeper requests).keeper
        = IndexedKeeper.index keeper := by
  obtain ⟨same, answered⟩ := deleteLinks_undone error
  exact ⟨congrArg Store.links same, SteadyKeeper.updateBatch_error answered⟩

end Store

namespace Write

variable {σ : Type} [Keeper σ] [IndexedKeeper σ] {state : Store × σ}

/-- **A write that succeeds** has its effect on table and index. -/
theorem books_next_of_ok {write : Write} (ok : write.Succeeds state) :
    books (write.next state) = write.effect (books state) := by
  cases write with
  | link fresh key record =>
      obtain ⟨inserted, ok⟩ := Store.Outcome.of_status_ok ok
      obtain ⟨index, links⟩ := Store.insertLink_of_ok ok
      simp only [effect, books, index]
      exact Prod.ext links rfl
  | user fresh email record =>
      obtain ⟨links, index⟩ := Store.insertUser_links state.1 state.2 fresh email record
      exact Prod.ext links index
  | batch call =>
      obtain ⟨report, ok⟩ := Store.Outcome.of_status_ok ok
      obtain ⟨-, links, index⟩ := Store.insertInOrder_of_ok ok
      exact Prod.ext links index
  | deletion requests =>
      obtain ⟨_, ok⟩ := Store.Outcome.of_status_ok ok
      obtain ⟨links, index⟩ := Store.deleteLinks_of_ok ok
      exact Prod.ext links index

/-- **A write that fails** leaves its residue. -/
theorem books_next_of_error [SteadyKeeper σ] {write : Write} (failed : ¬ write.Succeeds state) :
    books (write.next state) = write.residue (books state) := by
  cases write with
  | link fresh key record =>
      obtain ⟨fault, error⟩ := Store.Outcome.of_status_ne_ok failed
      obtain ⟨links, index⟩ := Store.insertLink_of_error error
      exact Prod.ext links index
  | user fresh email record =>
      obtain ⟨links, index⟩ := Store.insertUser_links state.1 state.2 fresh email record
      exact Prod.ext links index
  | batch call =>
      obtain ⟨fault, error⟩ := Store.Outcome.of_status_ne_ok failed
      obtain ⟨links, index⟩ := Store.insertInOrder_of_error error
      exact Prod.ext links index
  | deletion requests =>
      obtain ⟨fault, error⟩ := Store.Outcome.of_status_ne_ok failed
      obtain ⟨links, index⟩ := Store.deleteLinks_of_error error
      exact Prod.ext links index

end Write

/-! ### What writes preserve -/

/-- The laws of table and index that no write breaks, whether it succeeds or fails. -/
structure Books.Orderly (books : Books) : Prop where
  keyed : LinkMap.Keyed books.1
  sound : books.2.Sound
  unique : LinkMap.UniqueUrls books.2.byKey

/-- Whatever stands in the table stands in the index, which is sound. -/
structure Books.Covered (books : Books) : Prop where
  sound : books.2.Sound
  within : LinkMap.Within books.1 books.2.byKey

theorem Books.covered_empty : Covered (∅, {}) := ⟨LinkIndex.sound_empty, fun _ _ found => found⟩

namespace Write

theorem effect_sound {books : Books} (sound : books.2.Sound) (write : Write) :
    (write.effect books).2.Sound := by
  cases write with
  | link fresh key record => exact sound.insert fresh key record
  | user => exact sound
  | batch call => exact call.filed_sound sound
  | deletion requests => exact sound.tombstone requests

theorem effect_orderly {books : Books} (orderly : books.Orderly) (write : Write) :
    (write.effect books).Orderly where
  sound := write.effect_sound orderly.sound
  keyed := by
    cases write with
    | link fresh key record => exact orderly.keyed.insert _
    | user => exact orderly.keyed
    | batch call => exact call.settle_keyed orderly.sound orderly.keyed
    | deletion requests => exact orderly.keyed.tombstone requests
  unique := by
    cases write with
    | link fresh key record => exact orderly.sound.uniqueUrls_insert orderly.unique fresh key record
    | user => exact orderly.unique
    | batch call => exact call.filed_uniqueUrls orderly.sound orderly.unique
    | deletion requests => exact orderly.unique.tombstone requests

theorem effect_covered {books : Books} (covered : books.Covered) (write : Write) :
    (write.effect books).Covered where
  sound := write.effect_sound covered.sound
  within := by
    obtain ⟨table, index⟩ := books
    obtain ⟨sound, within⟩ := covered
    dsimp only at sound within
    cases write with
    | link fresh key record =>
        simp only [effect, sound.byKey_insert]
        exact within.insert _ _
    | user => exact within
    | batch call =>
        intro key link found
        rcases call.of_getElem?_settle sound found with stored | ⟨old, -⟩
        · exact stored
        · exact call.filed_kept sound (within key link old)
    | deletion requests => exact within.tombstone requests

theorem residue_orderly {books : Books} (orderly : books.Orderly) (write : Write) :
    (write.residue books).Orderly := by
  cases write with
  | batch call => exact ⟨call.merge_keyed orderly.keyed, orderly.sound, orderly.unique⟩
  | link => exact orderly
  | user => exact orderly
  | deletion => exact orderly

end Write

/-! ### Attempts on a keeper that may be out of reach -/

/-- A write, and whether the keeper is out of reach when it is made. -/
structure Attempt where
  down : Bool
  write : Write

namespace Attempt

variable {σ : Type} [Keeper σ]

/-- Store and keeper when an attempt is made. -/
def meets (attempt : Attempt) (state : Store × Unreliable σ) : Store × Unreliable σ :=
  (state.1, { state.2 with down := attempt.down })

/-- Does an attempt succeed? -/
def Succeeds (state : Store × Unreliable σ) (attempt : Attempt) : Prop :=
  attempt.write.Succeeds (attempt.meets state)

/-- Store and keeper after an attempt. -/
def next (state : Store × Unreliable σ) (attempt : Attempt) : Store × Unreliable σ :=
  attempt.write.next (attempt.meets state)

variable [IndexedKeeper σ] {state : Store × Unreliable σ} {attempt : Attempt}

theorem books_next_of_ok (ok : attempt.Succeeds state) :
    Write.books (attempt.next state) = attempt.write.effect (Write.books state) :=
  Write.books_next_of_ok ok

variable [SteadyKeeper σ]

theorem books_next_of_error (failed : ¬ attempt.Succeeds state) :
    Write.books (attempt.next state) = attempt.write.residue (Write.books state) :=
  Write.books_next_of_error failed

/-- Attempts keep table and index orderly. -/
theorem next_orderly (state : Store × Unreliable σ) (attempt : Attempt)
    (orderly : (Write.books state).Orderly) : (Write.books (attempt.next state)).Orderly := by
  by_cases ok : attempt.Succeeds state
  · rw [books_next_of_ok ok]
    exact attempt.write.effect_orderly orderly
  · rw [books_next_of_error ok]
    exact attempt.write.residue_orderly orderly

end Attempt

end ShortLinks
