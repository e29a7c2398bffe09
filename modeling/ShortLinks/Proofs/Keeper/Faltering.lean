import ShortLinks.Proofs.Database.Addresses
import ShortLinks.Proofs.Store.InMemory

/-!
Keepers that fail at times.

* `Failure`, `Faltering` — a keeper any of whose calls may fail, with any fault; what such a call
  leaves behind is a part of its failure.
* `perform_eq` — a call on a keeper that wraps another one is a call on the one behind.
* `KeyedKeeper` — a keeper that loads links under their own keys, after whatever calls. The keeper
  in memory, the keeper of two files and the keeper of a database are such keepers, so is the one
  that settings choose, and so is each of them with failures that leave it lawful.
-/

namespace ShortLinks

/-! ### Calls that fail -/

/-- How a call fails: with this fault, leaving the keeper so. -/
structure Failure (σ : Type) where
  fault : Fault
  leaves : σ → σ

/-- A keeper some of whose calls fail. -/
structure Faltering (σ : Type) where
  inner : σ
  /-- What becomes of the call with this number, counted from zero: it fails, or it is answered. -/
  plan : Nat → Option (Failure σ)
  calls : Nat := 0

namespace Faltering

variable {σ α : Type}

/-- A call of the keeper behind, unless it fails. -/
def guarded (call : Call σ α) : Call (Faltering σ) α := fun k =>
  let counted := { k with calls := k.calls + 1 }
  match k.plan k.calls with
  | some failure => (.error failure.fault, { counted with inner := failure.leaves k.inner })
  | none =>
      let (answer, inner) := call k.inner
      (answer, { counted with inner := inner })

instance [Keeper σ] : Keeper (Faltering σ) where
  load := guarded Keeper.load
  loadUsers := guarded Keeper.loadUsers
  save fresh key link := guarded (Keeper.save fresh key link)
  saveUser fresh email user := guarded (Keeper.saveUser fresh email user)
  saveBatch fresh batch := guarded (Keeper.saveBatch fresh batch)
  updateBatch requests := guarded (Keeper.updateBatch requests)
  countLinks := guarded Keeper.countLinks
  countUsers := guarded Keeper.countUsers
  ping k := Keeper.ping k.inner
  close k := ((Keeper.close k.inner).1, { k with inner := (Keeper.close k.inner).2 })
  name k := Keeper.name k.inner

theorem guarded_answering (kind : α → KeeperAnswer) (call : Call σ α) :
    KeeperCall.answering kind (guarded call) = guarded (KeeperCall.answering kind call) := by
  funext k
  unfold KeeperCall.answering guarded
  cases k.plan k.calls <;> rfl

variable [Keeper σ]

theorem perform_eq (call : KeeperCall) :
    (call.perform : Call (Faltering σ) KeeperAnswer) = guarded call.perform := by
  cases call <;> exact guarded_answering _ _

end Faltering

namespace Unreliable

variable {σ α : Type}

theorem guarded_answering (kind : α → KeeperAnswer) (call : Call σ α) :
    KeeperCall.answering kind (guarded call) = guarded (KeeperCall.answering kind call) := by
  funext k
  unfold KeeperCall.answering guarded
  cases k.down <;> rfl

theorem perform_eq [Keeper σ] (call : KeeperCall) :
    (call.perform : Call (Unreliable σ) KeeperAnswer) = guarded call.perform := by
  cases call <;> exact guarded_answering _ _

end Unreliable

namespace Backend

/-- A call goes to the keeper that was chosen. -/
theorem perform_eq (call : KeeperCall) :
    (call.perform : Call (Backend × Disk) KeeperAnswer)
      = dispatch call.perform call.perform call.perform := by
  have answering {α : Type} (kind : α → KeeperAnswer) (memory : Call MemoryKeeper α)
      (file : Call (FileKeeper × Disk) α) (database : Call DatabaseKeeper α) :
      KeeperCall.answering kind (dispatch memory file database)
        = dispatch (KeeperCall.answering kind memory) (KeeperCall.answering kind file)
            (KeeperCall.answering kind database) := by
    funext ⟨backend, disk⟩
    cases backend with
    | memory keeper => rfl
    | unreliable keeper =>
        obtain ⟨inner, down⟩ := keeper
        cases down <;> rfl
    | file keeper => rfl
    | database keeper home => rfl
  cases call <;> exact answering _ _ _ _

end Backend

/-! ### Links under their own keys -/

/-- A keeper that loads links under their own keys. -/
class KeyedKeeper (σ : Type) [Keeper σ] where
  /-- The keeper is as its calls leave it. -/
  Lawful : σ → Prop
  /-- No call makes it otherwise, whether it fails or not. -/
  perform_lawful {keeper : σ} (call : KeeperCall) :
    Lawful keeper → Lawful (call.perform keeper).2
  /-- Then links are loaded under their own keys. -/
  load_keyed {keeper : σ} {links : LinkMap} :
    Lawful keeper → (Keeper.load keeper).1 = .ok links → LinkMap.Keyed links

open KeyedKeeper (Lawful perform_lawful load_keyed)

/-- In memory the index must be sound: it is given back as it stands. -/
instance : KeyedKeeper MemoryKeeper where
  Lawful keeper := keeper.links.Sound ∧ LinkMap.UniqueUrls keeper.links.byKey
  perform_lawful call := fun ⟨sound, unique⟩ => MemoryKeeper.perform_sound sound unique call
  load_keyed := by
    rintro keeper links ⟨sound, -⟩ loaded
    cases loaded
    exact sound.keyed

/-- Links that are read from a file are put under their own keys, whatever the file holds. -/
instance : KeyedKeeper (FileKeeper × Disk) where
  Lawful _ := True
  perform_lawful _ _ := trivial
  load_keyed := by
    rintro ⟨keeper, disk⟩ links - loaded
    change (FileKeeper.load (keeper, disk)).1 = .ok links at loaded
    unfold FileKeeper.load at loaded
    dsimp only at loaded
    split at loaded
    · next read =>
        cases loaded
        exact FileKeeper.readLinks_keyed read
    · cases loaded

/-- So are links that are read from a table. -/
instance : KeyedKeeper DatabaseKeeper where
  Lawful _ := True
  perform_lawful _ _ := trivial
  load_keyed := by
    intro keeper links _ loaded
    change (DatabaseKeeper.load keeper).1 = .ok links at loaded
    unfold DatabaseKeeper.load at loaded
    split at loaded
    · next rows read =>
        cases loaded
        intro key link found
        obtain ⟨row, -, rfl, rfl⟩ := DatabaseKeeper.of_linkMapOf found
        rfl
    · cases loaded

section Wrapped

variable {σ : Type} [Keeper σ] [KeyedKeeper σ]

instance : KeyedKeeper (Unreliable σ) where
  Lawful keeper := Lawful keeper.inner
  perform_lawful := by
    intro keeper call lawful
    rw [Unreliable.perform_eq, Unreliable.guarded]
    split
    · exact lawful
    · exact perform_lawful call lawful
  load_keyed := by
    intro keeper links lawful loaded
    change (Unreliable.guarded Keeper.load keeper).1 = .ok links at loaded
    unfold Unreliable.guarded at loaded
    split at loaded
    · cases loaded
    · exact load_keyed lawful loaded

/-- Failures that leave a lawful keeper lawful. -/
def Faltering.Harmless (plan : Nat → Option (Failure σ)) : Prop :=
  ∀ n failure, plan n = some failure → ∀ keeper, Lawful keeper → Lawful (failure.leaves keeper)

instance : KeyedKeeper (Faltering σ) where
  Lawful keeper := Lawful keeper.inner ∧ Faltering.Harmless keeper.plan
  perform_lawful := by
    rintro keeper call ⟨lawful, harmless⟩
    rw [Faltering.perform_eq, Faltering.guarded]
    dsimp only
    split
    · next failure planned =>
        exact ⟨harmless _ failure planned keeper.inner lawful, harmless⟩
    · exact ⟨perform_lawful call lawful, harmless⟩
  load_keyed := by
    rintro keeper links ⟨lawful, -⟩ loaded
    change (Faltering.guarded Keeper.load keeper).1 = .ok links at loaded
    unfold Faltering.guarded at loaded
    dsimp only at loaded
    split at loaded
    · cases loaded
    · exact load_keyed lawful loaded

end Wrapped

namespace Backend

/-- The keeper that was chosen is lawful. -/
def IsLawful (disk : Disk) : Backend → Prop
  | .memory keeper => Lawful keeper
  | .unreliable keeper => Lawful keeper
  | .file keeper => Lawful (keeper, disk)
  | .database keeper _ => Lawful keeper

instance : KeyedKeeper (Backend × Disk) where
  Lawful state := state.1.IsLawful state.2
  perform_lawful := by
    rintro ⟨backend, disk⟩ call lawful
    rw [perform_eq]
    cases backend with
    | memory keeper => exact perform_lawful call lawful
    | unreliable keeper =>
        have after : Lawful (call.perform keeper).2 := perform_lawful call lawful
        rw [Unreliable.perform_eq] at after
        exact after
    | file keeper => exact trivial
    | database keeper home => exact trivial
  load_keyed := by
    rintro ⟨backend, disk⟩ links lawful loaded
    cases backend with
    | memory keeper => exact load_keyed (show Lawful keeper from lawful) loaded
    | unreliable keeper =>
        have guarded : (Keeper.load keeper).1 = .ok links := loaded
        exact load_keyed (show Lawful keeper from lawful) guarded
    | file keeper => exact load_keyed (show Lawful (keeper, disk) from lawful) loaded
    | database keeper home =>
        exact load_keyed (show Lawful (refreshed keeper home disk) from trivial) loaded

/-- Every keeper that settings choose is lawful, whatever is on the disk and around it. -/
theorem lawful_ofSettings {around : Surroundings} {settings : StorageSettings} {disk : Disk}
    {keeper : Backend × Disk} (chosen : ofSettings around settings disk = .ok keeper) :
    Lawful keeper := by
  unfold ofSettings at chosen
  split at chosen
  · obtain ⟨keeper, home, after, rfl⟩ := of_openDatabase around chosen
    exact trivial
  · cases opened : FileKeeper.ofPaths settings.filePath settings.usersFile disk with
    | error fault =>
        rw [opened] at chosen
        cases chosen
    | ok files =>
        rw [opened] at chosen
        cases chosen
        exact trivial
  · cases chosen
    exact ⟨LinkIndex.sound_empty, LinkMap.uniqueUrls_empty⟩
  · cases chosen
    exact ⟨LinkIndex.sound_empty, LinkMap.uniqueUrls_empty⟩

end Backend

end ShortLinks
