import ShortLinks.Proofs.Disk.Drafts
import ShortLinks.Proofs.Keeper.Indexed
import ShortLinks.Proofs.Keeper.Interchange
import ShortLinks.Proofs.Keeper.Matched
import ShortLinks.Proofs.Store.Write

/-!
Calls on two files that fail.

* `Sound.remove_put`, `Sound.remove_entries` — taking back a link that was put into a sound index,
  or one by one the links of a batch, restores both maps of the index.
* `Reached` — the keepers that come from files of any content, also with several links to one
  address, by any calls on any disks. Their indexes are sound, `Reached.sound`.
* `NoTrace`, `leaves_no_trace` — a call that fails leaves the indexes as they were and both files
  with what they held, and a store over the keeper as it was.
-/

namespace ShortLinks

namespace LinkIndex

variable {index : LinkIndex} {own link twin : Link}

/-! ### Taking back -/

/-- Nobody holds an address that no link leads to. -/
theorem Sound.unheld (sound : index.Sound) {url : String}
    (unled : ¬ LinkMap.Leads index.byKey url) : index.keyByUrl[url]? = none := by
  cases holds : index.keyByUrl[url]? with
  | none => rfl
  | some key =>
      obtain ⟨link, found, leads⟩ := sound.leads url key holds
      exact absurd ⟨key, link, found, leads⟩ unled

/-- A link whose key and address were free is taken back with all that it brought. -/
theorem Sound.remove_put (sound : index.Sound) (free : index.byKey[own.key]? = none)
    (unled : ¬ LinkMap.Leads index.byKey own.originalUrl) :
    (index.put (own.key, own)).remove own = index := by
  have stands : (index.put (own.key, own)).Stands own := ⟨own, by simp, rfl, rfl⟩
  have unheld := sound.unheld unled
  have links : (index.byKey.insert own.key own).erase own.key = index.byKey := by
    refine Std.ExtTreeMap.ext_getElem? fun {key} => ?_
    grind
  have holders : (index.keyByUrl.insert own.originalUrl own.key).erase own.originalUrl
      = index.keyByUrl := by
    refine Std.ExtTreeMap.ext_getElem? fun {url} => ?_
    grind
  rw [remove_of_stands stands, byKey_put, keyByUrl_put, links, holders]

theorem byKey_remove_of_ne (index : LinkIndex) (other : link.key ≠ twin.key) :
    (index.remove link).byKey[twin.key]? = index.byKey[twin.key]? := by
  unfold remove
  split
  · simp [Std.ExtTreeMap.getElem?_erase, other]
  · rfl

/-- Links under different keys can be taken back in any order. -/
theorem remove_comm (index : LinkIndex) (other : link.key ≠ twin.key) :
    (index.remove link).remove twin = (index.remove twin).remove link := by
  have links := byKey_remove_of_ne index other
  have twins := byKey_remove_of_ne index other.symm
  have erase_comm {β : Type} (table : Std.ExtTreeMap String β) (a b : String) :
      (table.erase a).erase b = (table.erase b).erase a := by
    refine Std.ExtTreeMap.ext_getElem? fun {key} => ?_
    grind
  rw [remove, links, remove.eq_def (index.remove twin), twins]
  unfold remove
  by_cases first : index.byKey[link.key]?.any (·.id = link.id) = true <;>
    by_cases second : index.byKey[twin.key]?.any (·.id = twin.id) = true <;>
    simp [first, second, erase_comm]

theorem foldl_remove_comm (links : List Link) (index : LinkIndex)
    (others : ∀ twin ∈ links, own.key ≠ twin.key) :
    links.foldl remove (index.remove own) = (links.foldl remove index).remove own := by
  induction links generalizing index with
  | nil => rfl
  | cons first rest ih =>
      rw [List.foldl_cons, List.foldl_cons, remove_comm index (others first List.mem_cons_self),
        ih _ fun twin mem => others twin (List.mem_cons_of_mem _ mem)]

/-- The links of a batch are taken back one by one with all that the batch brought. -/
theorem Sound.remove_entries (sound : index.Sound) (fresh : String → String)
    {entries : List (String × Link)} (distinct : (entries.map (·.1)).Nodup) :
    (insertEntries fresh index entries).created.foldl remove
      (insertEntries fresh index entries).index = index := by
  induction entries generalizing index with
  | nil => rfl
  | cons entry rest ih =>
      obtain ⟨key, link⟩ := entry
      rw [List.map_cons, List.nodup_cons] at distinct
      have step := sound.insertion fresh (key, link)
      generalize inserted : index.insert (fresh key) key link = answer at step
      cases step with
      | refused present inWay =>
          simp only [insertEntries, inserted]
          exact ih sound distinct.2
      | stored free unled =>
          simp only [insertEntries, inserted]
          generalize entryLink fresh (key, link) = own at free unled
          have after := sound.put free
          -- What the rest of the batch stores finds its key free, so it is not that of this link.
          have others : ∀ twin ∈ (insertEntries fresh (index.put (own.key, own)) rest).created,
              own.key ≠ twin.key := by
            intro twin mem same
            have freeAfter := (insertEntries_creates fresh distinct.2 after).free twin mem
            simp [← same] at freeAfter
          rw [List.foldl_cons, foldl_remove_comm _ _ others, ih after distinct.2,
            sound.remove_put free unled]

end LinkIndex

namespace FileKeeper

variable {k : FileKeeper} {disk : Disk} {s : FileKeeper × Disk} {fault : Fault}

/-! ### Calls that fail -/

/-- What a failed call must leave as it was: the keeper with its indexes, and what the paths of the
links and of the users lead to. -/
structure NoTrace (before after : FileKeeper × Disk) : Prop where
  keeper : after.1 = before.1
  links : after.2.at? before.1.linksPath = before.2.at? before.1.linksPath
  users : after.2.at? before.1.usersPath = before.2.at? before.1.usersPath

theorem NoTrace.of_eq {before after : FileKeeper × Disk} (same : after = before) :
    NoTrace before after :=
  same ▸ ⟨rfl, rfl, rfl⟩

/-- A file that cannot be written anew leaves a draft behind, if anything. -/
theorem at?_of_writeAnew_error {path other : String} {links : List Link} {after : Disk}
    (failed : writeAnew path links disk = (.error fault, after))
    (apart : disk.Apart (draftPath path) other) : after.at? other = disk.at? other := by
  unfold writeAnew at failed
  split at failed
  · obtain ⟨-, rfl⟩ := Prod.mk.inj failed
    rfl
  · next drafted written =>
      split at failed
      · cases (Prod.mk.inj failed).1
      · obtain ⟨-, rfl⟩ := Prod.mk.inj failed
        obtain ⟨name, named, rfl⟩ := Disk.writeText_ok written
        exact Disk.at?_put named apart _

theorem save_undone (sound : k.links.Sound) {fresh key : String} {link : Link}
    (failed : save fresh key link (k, disk) = (.error fault, s)) : s = (k, disk) := by
  have step := sound.insertion (fun _ => fresh) (key, link)
  unfold save at failed
  dsimp only at failed step
  generalize k.links.insert fresh key link = answer at failed step
  cases step with
  | refused => cases (Prod.mk.inj failed).1
  | stored free unled =>
      dsimp only at failed
      split at failed
      · cases (Prod.mk.inj failed).1
      · obtain ⟨-, rfl⟩ := Prod.mk.inj failed
        rw [sound.remove_put free unled]

theorem saveBatch_undone (sound : k.links.Sound) {fresh : String → String} {batch : LinkMap}
    (failed : saveBatch fresh batch (k, disk) = (.error fault, s)) : s = (k, disk) := by
  unfold saveBatch at failed
  dsimp only at failed
  split at failed
  · cases (Prod.mk.inj failed).1
  · split at failed
    · cases (Prod.mk.inj failed).1
    · obtain ⟨-, rfl⟩ := Prod.mk.inj failed
      rw [LinkIndex.insertBatch, sound.remove_entries fresh (LinkMap.keys_nodup batch)]

theorem saveUser_undone {fresh email : String} {user : User}
    (failed : saveUser fresh email user (k, disk) = (.error fault, s)) : s = (k, disk) := by
  have enrolled := k.users.enrolled fresh email user
  unfold saveUser at failed
  dsimp only at failed
  generalize k.users.insert fresh email user = answer at failed enrolled
  cases enrolled with
  | created free added =>
      dsimp only at failed
      split at failed
      · cases (Prod.mk.inj failed).1
      · obtain ⟨-, rfl⟩ := Prod.mk.inj failed
        rw [UserIndex.remove_of_added free added]
  | existing => cases (Prod.mk.inj failed).1
  | mismatch =>
      obtain ⟨-, rfl⟩ := Prod.mk.inj failed
      rfl
  | failed =>
      obtain ⟨-, rfl⟩ := Prod.mk.inj failed
      rfl

theorem updateBatch_undone (apart : disk.Apart (draftPath k.linksPath) k.usersPath)
    {requests : List DeletionRequest}
    (failed : updateBatch requests (k, disk) = (.error fault, s)) : NoTrace (k, disk) s := by
  unfold updateBatch at failed
  dsimp only at failed
  split at failed
  · cases (Prod.mk.inj failed).1
  · split at failed
    · cases (Prod.mk.inj failed).1
    · next written =>
        obtain ⟨-, rfl⟩ := Prod.mk.inj failed
        exact ⟨rfl, at?_of_writeAnew_error written (disk.apart_draftPath k.linksPath).symm,
          at?_of_writeAnew_error written apart⟩

theorem load_undone (failed : load (k, disk) = (.error fault, s)) : s = (k, disk) := by
  unfold load at failed
  dsimp only at failed
  split at failed
  · cases (Prod.mk.inj failed).1
  · exact (Prod.mk.inj failed).2.symm

theorem loadUsers_undone (failed : loadUsers (k, disk) = (.error fault, s)) : s = (k, disk) := by
  unfold loadUsers at failed
  dsimp only at failed
  split at failed
  · cases (Prod.mk.inj failed).1
  · exact (Prod.mk.inj failed).2.symm

theorem of_answering_error {σ α : Type} {kind : α → KeeperAnswer} {call : Call σ α} {keeper : σ}
    (failed : (KeeperCall.answering kind call keeper).1 = .error fault) :
    call keeper = (.error fault, (KeeperCall.answering kind call keeper).2) := by
  unfold KeeperCall.answering at failed ⊢
  cases answered : call keeper with
  | mk answer after =>
      rw [answered] at failed
      cases answer with
      | ok value => cases failed
      | error other =>
          cases failed
          rfl

/-- A call that fails leaves no trace, if the index is sound. -/
theorem perform_undone (sound : k.links.Sound)
    (apart : disk.Apart (draftPath k.linksPath) k.usersPath) {call : KeeperCall}
    (failed : (call.perform (k, disk)).1 = .error fault) :
    NoTrace (k, disk) (call.perform (k, disk)).2 := by
  cases call with
  | save => exact .of_eq (save_undone sound (of_answering_error failed))
  | saveUser => exact .of_eq (saveUser_undone (of_answering_error failed))
  | saveBatch => exact .of_eq (saveBatch_undone sound (of_answering_error failed))
  | updateBatch => exact updateBatch_undone apart (of_answering_error failed)
  | load => exact .of_eq (load_undone (of_answering_error failed))
  | loadUsers => exact .of_eq (loadUsers_undone (of_answering_error failed))
  | countLinks => cases failed
  | countUsers => cases failed

/-! ### Where keepers come from -/

/-- The keepers that come from files: the records of the links may be any, and the index may take
them in any order; then any calls follow, whatever is on the disk when they are made. -/
inductive Reached : FileKeeper → Prop where
  | opened (linksPath usersPath : String) (records : List Link) (users : UserIndex)
      {entries : List (String × Link)} (order : entries.Perm (linkMapOf records).toList) :
      Reached ⟨linksPath, usersPath, .ofList entries, users⟩
  | called {k : FileKeeper} (reached : Reached k) (call : KeeperCall) (disk : Disk) :
      Reached (call.perform (k, disk)).2.1

theorem sound_save (sound : k.links.Sound) (fresh key : String) (link : Link) :
    (save fresh key link (k, disk)).2.1.links.Sound := by
  change (Keeper.save fresh key link (k, disk)).2.1.links.Sound
  cases answered : Keeper.save fresh key link (k, disk) with
  | mk answer after =>
      cases answer with
      | error fault => rwa [save_undone sound answered]
      | ok inserted =>
          have step : (k.links.insert fresh key link).2 = after.1.links :=
            congrArg Prod.snd (IndexedKeeper.save_ok answered)
          change after.1.links.Sound
          rw [← step]
          exact sound.insert fresh key link

theorem sound_saveBatch (sound : k.links.Sound) (fresh : String → String) (batch : LinkMap) :
    (saveBatch fresh batch (k, disk)).2.1.links.Sound := by
  change (Keeper.saveBatch fresh batch (k, disk)).2.1.links.Sound
  cases answered : Keeper.saveBatch fresh batch (k, disk) with
  | mk answer after =>
      cases answer with
      | error fault => rwa [saveBatch_undone sound answered]
      | ok report =>
          have step : (k.links.insertBatch fresh batch).index = after.1.links :=
            (IndexedKeeper.saveBatch_ok answered).2
          change after.1.links.Sound
          rw [← step]
          exact (sound.insertBatch_filed fresh batch).sound

theorem sound_updateBatch (sound : k.links.Sound) (requests : List DeletionRequest) :
    (updateBatch requests (k, disk)).2.1.links.Sound := by
  have marked := sound.tombstone requests
  unfold updateBatch
  dsimp only
  split
  · exact sound
  · next marking =>
      rw [marking] at marked
      split
      · exact marked
      · exact sound

theorem sound_load (sound : k.links.Sound) : (load (k, disk)).2.1.links.Sound := by
  unfold load
  dsimp only
  split
  · next links read => exact LinkIndex.sound_ofList (readLinks_keyed read) (.refl _)
  · exact sound

theorem sound_loadUsers (sound : k.links.Sound) : (loadUsers (k, disk)).2.1.links.Sound := by
  unfold loadUsers
  dsimp only
  split <;> exact sound

/-- A call keeps the index sound, whether it fails or not. -/
theorem sound_perform (sound : k.links.Sound) (call : KeeperCall) (disk : Disk) :
    (call.perform (k, disk)).2.1.links.Sound := by
  cases call with
  | save fresh key link => exact sound_save sound fresh key link
  | saveUser fresh email user =>
      have same : (saveUser fresh email user (k, disk)).2.1.links = k.links :=
        IndexedKeeper.saveUser_index (show Keeper.saveUser fresh email user (k, disk) = _ from rfl)
      exact same ▸ sound
  | saveBatch fresh batch => exact sound_saveBatch sound fresh batch
  | updateBatch requests => exact sound_updateBatch sound requests
  | load => exact sound_load sound
  | loadUsers => exact sound_loadUsers sound
  | countLinks => exact sound
  | countUsers => exact sound

theorem Reached.sound (reached : Reached k) : k.links.Sound := by
  induction reached with
  | opened linksPath usersPath records users order =>
      exact LinkIndex.sound_ofList (keyed_linkMapOf records) order
  | called reached call disk sound => exact sound_perform sound call disk

/-! ### Calls of a store -/

/-- **Calls that fail leave no trace.** The keeper comes from files of any content, and its users do
not stand in the place of the draft, however the two paths are written; `Disk.apart_of_plain` says
when it is enough that they differ. Whichever call the keeper answers with a fault, both maps of its
links and its users are as they were, and both paths lead to what they led to. A store over the
keeper that cannot insert a link or a user, or cannot delete links, is as it was, too. -/
theorem leaves_no_trace (reached : Reached k)
    (apart : disk.Apart (draftPath k.linksPath) k.usersPath) :
    (∀ (call : KeeperCall) (fault : Fault), (call.perform (k, disk)).1 = .error fault →
      NoTrace (k, disk) (call.perform (k, disk)).2) ∧
    ∀ (store : Store) (fault : Fault),
      (∀ fresh key link, (store.insertLink (k, disk) fresh key link).answer = .error fault →
        (store.insertLink (k, disk) fresh key link).store = store ∧
          NoTrace (k, disk) (store.insertLink (k, disk) fresh key link).keeper) ∧
      (∀ fresh email user, (store.insertUser (k, disk) fresh email user).answer = .error fault →
        (store.insertUser (k, disk) fresh email user).store = store ∧
          NoTrace (k, disk) (store.insertUser (k, disk) fresh email user).keeper) ∧
      ∀ requests, (store.deleteLinks (k, disk) requests).answer = .error fault →
        (store.deleteLinks (k, disk) requests).store = store ∧
          NoTrace (k, disk) (store.deleteLinks (k, disk) requests).keeper := by
  have sound := reached.sound
  refine ⟨fun call fault => perform_undone sound apart, fun store fault => ⟨?_, ?_, ?_⟩⟩
  · intro fresh key link failed
    obtain ⟨same, answered⟩ := Store.insertLink_undone failed
    exact ⟨same, .of_eq (save_undone sound answered)⟩
  · intro fresh email user failed
    obtain ⟨same, answered⟩ := Store.insertUser_undone failed
    exact ⟨same, .of_eq (saveUser_undone answered)⟩
  · intro requests failed
    obtain ⟨same, answered⟩ := Store.deleteLinks_undone failed
    exact ⟨same, updateBatch_undone apart answered⟩

/-- A disk on which no file takes another name. -/
def renamesNothing : Disk where
  refuses := fun call => match call with
    | .rename .. => some (.os 13)
    | _ => none

/-- A keeper that holds two links to one address. -/
def twoToOne : FileKeeper where
  linksPath := "/links"
  usersPath := "/users"
  links := .ofMap (linkMapOf [⟨"1", "a", "u", some "ann", false⟩, ⟨"2", "b", "u", none, false⟩])

theorem leaves_no_trace_twoToOne :
    Reached twoToOne ∧ renamesNothing.Apart (draftPath twoToOne.linksPath) twoToOne.usersPath ∧
      ∃ fault, (KeeperCall.perform (.updateBatch [⟨"ann", ["a"]⟩]) (twoToOne, renamesNothing)).1
          = .error fault ∧
        NoTrace (twoToOne, renamesNothing)
          (KeeperCall.perform (.updateBatch [⟨"ann", ["a"]⟩]) (twoToOne, renamesNothing)).2 := by
  have reached : Reached twoToOne := .opened "/links" "/users" _ {} (.refl _)
  have apart : renamesNothing.Apart (draftPath twoToOne.linksPath) twoToOne.usersPath :=
    Disk.apart_of_plain (by decide +kernel) (by decide +kernel) (by decide +kernel)
      (by decide +kernel) renamesNothing
  have failed : (KeeperCall.perform (.updateBatch [⟨"ann", ["a"]⟩])
      (twoToOne, renamesNothing)).1.isOk = false := by decide +kernel
  obtain ⟨calls, -⟩ := leaves_no_trace reached apart
  cases answer : (KeeperCall.perform (.updateBatch [⟨"ann", ["a"]⟩])
      (twoToOne, renamesNothing)).1 with
  | ok value =>
      rw [answer] at failed
      cases failed
  | error fault => exact ⟨reached, apart, fault, rfl, calls _ fault answer⟩

end FileKeeper

end ShortLinks
