import ShortLinks.Keeper.File
import ShortLinks.Keeper.Memory
import ShortLinks.Keeper.Unreliable
import ShortLinks.Proofs.Keeper.LinkIndex

/-!
Keepers that answer from an index of links.

* `IndexedKeeper` — a call that succeeds does to the index what the index alone would do. The
  keeper in memory, the keeper of two files and a keeper that may be out of reach are such keepers.
* `SteadyKeeper` — a call that fails leaves the index as it was.
-/

namespace ShortLinks

/-- A keeper whose successful calls are the operations of one index of links. -/
class IndexedKeeper (σ : Type) [Keeper σ] where
  index : σ → LinkIndex
  save_ok {fresh key : String} {link : Link} {keeper after : σ} {inserted : Inserted Link} :
    Keeper.save fresh key link keeper = (.ok inserted, after) →
      (index keeper).insert fresh key link = (inserted, index after)
  saveBatch_ok {fresh : String → String} {batch : LinkMap} {keeper after : σ}
      {report : BatchReport} :
    Keeper.saveBatch fresh batch keeper = (.ok report, after) →
      ((index keeper).insertBatch fresh batch).report = report ∧
        ((index keeper).insertBatch fresh batch).index = index after
  updateBatch_ok {requests : List DeletionRequest} {keeper after : σ} :
    Keeper.updateBatch requests keeper = (.ok (), after) →
      ((index keeper).tombstone requests).1 = index after
  saveUser_index {fresh email : String} {user : User} {keeper after : σ}
      {answer : Except Fault (Inserted User)} :
    Keeper.saveUser fresh email user keeper = (answer, after) → index after = index keeper

/-- An indexed keeper that keeps its index when a call fails. -/
class SteadyKeeper (σ : Type) [Keeper σ] [IndexedKeeper σ] : Prop where
  save_error {fresh key : String} {link : Link} {keeper after : σ} {fault : Fault} :
    Keeper.save fresh key link keeper = (.error fault, after) →
      IndexedKeeper.index after = IndexedKeeper.index keeper
  saveBatch_error {fresh : String → String} {batch : LinkMap} {keeper after : σ} {fault : Fault} :
    Keeper.saveBatch fresh batch keeper = (.error fault, after) →
      IndexedKeeper.index after = IndexedKeeper.index keeper
  updateBatch_error {requests : List DeletionRequest} {keeper after : σ} {fault : Fault} :
    Keeper.updateBatch requests keeper = (.error fault, after) →
      IndexedKeeper.index after = IndexedKeeper.index keeper

/-! ### In memory -/

namespace MemoryKeeper

instance : IndexedKeeper MemoryKeeper where
  index := links
  save_ok := by
    intro fresh key link keeper after inserted answered
    obtain ⟨answer, rfl⟩ := Prod.mk.inj answered
    cases answer
    rfl
  saveBatch_ok := by
    intro fresh batch keeper after report answered
    obtain ⟨answer, rfl⟩ := Prod.mk.inj answered
    cases answer
    exact ⟨rfl, rfl⟩
  updateBatch_ok := by
    intro requests keeper after answered
    obtain ⟨-, rfl⟩ := Prod.mk.inj answered
    rfl
  saveUser_index := by
    intro fresh email user keeper after answer answered
    obtain ⟨-, rfl⟩ := Prod.mk.inj answered
    rfl

instance : SteadyKeeper MemoryKeeper where
  save_error answered := by cases (Prod.mk.inj answered).1
  saveBatch_error answered := by cases (Prod.mk.inj answered).1
  updateBatch_error answered := by cases (Prod.mk.inj answered).1

end MemoryKeeper

/-! ### Two files -/

namespace FileKeeper

theorem keyed_linkMapOf (records : List Link) : LinkMap.Keyed (linkMapOf records) := by
  have keyed_foldl : ∀ table : LinkMap, LinkMap.Keyed table →
      LinkMap.Keyed (records.foldl (fun table link => table.insert link.key link) table) := by
    induction records with
    | nil => exact fun _ keyed => keyed
    | cons record rest ih => exact fun table keyed => ih _ (keyed.insert record)
  exact keyed_foldl ∅ LinkMap.keyed_empty

/-- The links that are read from a file stand under their own keys. -/
theorem readLinks_keyed {path : String} {disk : Disk} {links : LinkMap}
    (read : readLinks path disk = .ok links) : LinkMap.Keyed links := by
  unfold readLinks at read
  cases answer : readFile Link.ofJson? path disk with
  | error fault =>
      rw [answer] at read
      cases read
  | ok records =>
      rw [answer] at read
      cases read
      exact keyed_linkMapOf records

instance : IndexedKeeper (FileKeeper × Disk) where
  index keeper := keeper.1.links
  save_ok := by
    rintro fresh key link ⟨keeper, disk⟩ after inserted answered
    change save fresh key link (keeper, disk) = _ at answered
    unfold save at answered
    dsimp only at answered ⊢
    cases attempt : keeper.links.insert fresh key link with
    | mk outcome links =>
        rw [attempt] at answered
        cases outcome with
        | existing holder =>
            obtain ⟨answer, rfl⟩ := Prod.mk.inj answered
            cases answer
            rw [LinkIndex.eq_of_insert_existing attempt]
        | created stored =>
            dsimp only at answered
            split at answered
            · obtain ⟨answer, rfl⟩ := Prod.mk.inj answered
              cases answer
              rfl
            · cases (Prod.mk.inj answered).1
  saveBatch_ok := by
    rintro fresh batch ⟨keeper, disk⟩ after report answered
    change saveBatch fresh batch (keeper, disk) = _ at answered
    unfold saveBatch at answered
    dsimp only at answered ⊢
    split at answered
    · next isEmpty =>
        obtain ⟨answer, rfl⟩ := Prod.mk.inj answered
        cases answer
        rw [LinkIndex.insertBatch, Std.ExtTreeMap.isEmpty_iff.mp isEmpty]
        exact ⟨rfl, rfl⟩
    · split at answered
      · obtain ⟨answer, rfl⟩ := Prod.mk.inj answered
        cases answer
        exact ⟨rfl, rfl⟩
      · cases (Prod.mk.inj answered).1
  updateBatch_ok := by
    rintro requests ⟨keeper, disk⟩ after answered
    change updateBatch requests (keeper, disk) = _ at answered
    unfold updateBatch at answered
    dsimp only at answered ⊢
    split at answered
    · next unmarked =>
        obtain ⟨-, rfl⟩ := Prod.mk.inj answered
        exact LinkIndex.tombstone_eq_self (congrArg Prod.snd unmarked)
    · next marked =>
        split at answered
        · obtain ⟨-, rfl⟩ := Prod.mk.inj answered
          rw [marked]
        · cases (Prod.mk.inj answered).1
  saveUser_index := by
    rintro fresh email user ⟨keeper, disk⟩ after answer answered
    change saveUser fresh email user (keeper, disk) = _ at answered
    unfold saveUser at answered
    dsimp only at answered ⊢
    split at answered
    · obtain ⟨-, rfl⟩ := Prod.mk.inj answered
      rfl
    · obtain ⟨-, rfl⟩ := Prod.mk.inj answered
      rfl
    · split at answered <;>
        (obtain ⟨-, rfl⟩ := Prod.mk.inj answered
         rfl)

end FileKeeper

/-! ### Out of reach -/

namespace Unreliable

variable {σ α : Type}

/-- A guarded call fails and changes nothing, or it is the call of the keeper behind. -/
theorem of_guarded {call : Call σ α} {keeper after : Unreliable σ} {answer : Except Fault α}
    (answered : guarded call keeper = (answer, after)) :
    (answer = .error unreachable ∧ after = keeper) ∨
      call keeper.inner = (answer, after.inner) := by
  unfold guarded at answered
  split at answered
  · obtain ⟨rfl, rfl⟩ := Prod.mk.inj answered
    exact .inl ⟨rfl, rfl⟩
  · obtain ⟨rfl, rfl⟩ := Prod.mk.inj answered
    exact .inr rfl

theorem of_guarded_ok {call : Call σ α} {keeper after : Unreliable σ} {value : α}
    (answered : guarded call keeper = (.ok value, after)) :
    call keeper.inner = (.ok value, after.inner) := by
  rcases of_guarded answered with ⟨failed, -⟩ | inner
  · cases failed
  · exact inner

variable [Keeper σ] [IndexedKeeper σ]

instance : IndexedKeeper (Unreliable σ) where
  index keeper := IndexedKeeper.index keeper.inner
  save_ok answered := IndexedKeeper.save_ok (of_guarded_ok answered)
  saveBatch_ok answered := IndexedKeeper.saveBatch_ok (of_guarded_ok answered)
  updateBatch_ok answered := IndexedKeeper.updateBatch_ok (of_guarded_ok answered)
  saveUser_index := by
    intro fresh email user keeper after answer answered
    rcases of_guarded answered with ⟨-, rfl⟩ | inner
    · rfl
    · exact IndexedKeeper.saveUser_index inner

/-- A call that fails, out of reach or behind, leaves a steady index as it was. -/
theorem index_of_guarded_error {call : Call σ α}
    (steady : ∀ {inner after : σ} {fault : Fault}, call inner = (.error fault, after) →
      IndexedKeeper.index after = IndexedKeeper.index inner)
    {keeper after : Unreliable σ} {fault : Fault}
    (answered : guarded call keeper = (.error fault, after)) :
    IndexedKeeper.index after = IndexedKeeper.index keeper := by
  rcases of_guarded answered with ⟨-, rfl⟩ | inner
  · rfl
  · exact steady inner

instance [SteadyKeeper σ] : SteadyKeeper (Unreliable σ) where
  save_error := index_of_guarded_error SteadyKeeper.save_error
  saveBatch_error := index_of_guarded_error SteadyKeeper.saveBatch_error
  updateBatch_error := index_of_guarded_error SteadyKeeper.updateBatch_error

end Unreliable

end ShortLinks
