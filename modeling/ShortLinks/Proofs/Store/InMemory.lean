import ShortLinks.Proofs.Keeper.Interchange
import ShortLinks.Proofs.Store.OlderLinks

/-!
A store over the keeper in memory, whatever was done with the two before.

* `Usage` — what can happen to them: a write to the store, a call that reaches the keeper past the
  store, and a store that is opened anew over the keeper.
* `orderly_inUse` — table and index stay orderly, although the table need no longer show what the
  index holds.
-/

namespace ShortLinks

/-- Something that happens to a store and its keeper in memory. -/
inductive Usage where
  | writing (write : Write)
  /-- A call that reaches the keeper, of which the store learns nothing. -/
  | past (call : KeeperCall)
  /-- The store is opened anew. -/
  | reopening

/-- Store and keeper after a usage. -/
def Usage.next (state : Store × MemoryKeeper) : Usage → Store × MemoryKeeper
  | .writing write => write.next state
  | .past call => (state.1, (call.perform state.2).2)
  | .reopening => Store.ofKeeper state.2

/-- Calls on the keeper in memory keep its index sound and addresses unique. -/
theorem MemoryKeeper.perform_sound {keeper : MemoryKeeper} (sound : keeper.links.Sound)
    (unique : LinkMap.UniqueUrls keeper.links.byKey) (call : KeeperCall) :
    (call.perform keeper).2.links.Sound ∧
      LinkMap.UniqueUrls (call.perform keeper).2.links.byKey := by
  cases call with
  | save fresh key link =>
      exact ⟨sound.insert fresh key link, sound.uniqueUrls_insert unique fresh key link⟩
  | saveBatch fresh batch =>
      have filed := sound.insertBatch_filed fresh batch
      exact ⟨filed.sound, filed.uniqueUrls unique⟩
  | updateBatch requests => exact ⟨sound.tombstone requests, unique.tombstone requests⟩
  | saveUser => exact ⟨sound, unique⟩
  | load => exact ⟨sound, unique⟩
  | loadUsers => exact ⟨sound, unique⟩
  | countLinks => exact ⟨sound, unique⟩
  | countUsers => exact ⟨sound, unique⟩

/-- Table and index stay orderly, whatever happens to store and keeper. -/
theorem Usage.next_orderly (state : Store × MemoryKeeper) (usage : Usage)
    (orderly : (Write.books state).Orderly) : (Write.books (usage.next state)).Orderly := by
  cases usage with
  | writing write =>
      by_cases ok : write.Succeeds state
      · rw [Usage.next, Write.books_next_of_ok ok]
        exact write.effect_orderly orderly
      · rw [Usage.next, Write.books_next_of_error ok]
        exact write.residue_orderly orderly
  | past call =>
      obtain ⟨sound, unique⟩ := MemoryKeeper.perform_sound orderly.sound orderly.unique call
      exact ⟨orderly.keyed, sound, unique⟩
  | reopening => exact ⟨orderly.sound.keyed, orderly.sound, orderly.unique⟩

namespace Store

/-- A store over a keeper in memory that was empty, and the keeper, after some usages. -/
def inUse (usages : List Usage) : Store × MemoryKeeper := usages.foldl Usage.next (ofKeeper {})

theorem orderly_inUse (usages : List Usage) : (Write.books (inUse usages)).Orderly :=
  have start : (Write.books (ofKeeper ({} : MemoryKeeper))).Orderly :=
    ⟨LinkMap.keyed_empty, LinkIndex.sound_empty, LinkMap.uniqueUrls_empty⟩
  foldl_of_step Usage.next_orderly start usages

end Store

end ShortLinks
