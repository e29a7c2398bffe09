import Mathlib.Algebra.Order.BigOperators.Group.List
import Mathlib.Algebra.Order.Group.Nat
import ShortLinks.Proofs.Deletion.Marking
import ShortLinks.Proofs.Disk.Changes
import ShortLinks.Proofs.Keeper.Restarts
import ShortLinks.Proofs.Keeper.Undoing
import ShortLinks.Proofs.Link.Key
import ShortLinks.Settings.Basic

/-!
What calls on links do to the file of the users.

* `LinkCall`, `Attempt` — the calls that write links, in a system that may refuse any of its own
  calls meanwhile, and where a write that breaks off may leave its file in any state.
* `WritesAt` — the names at which such calls write: that of the links, and that of their draft.
* `Keeps`, `keeps_next` — an attempt changes files at these names only; and the keeper holds links
  only if they have a name to stand at, so that nothing is drafted for links without one.
* `Grounded.exists_changed` — what stands at one of these names is changed by some run: saving a
  link adds to the links, and deleting one takes away what stood in the place of the draft.
* `users_untouched_iff` — so the users are untouched by every run exactly if their path names no
  file of `WritesAt`. `untouched_of_usersFile` says that the path that they have by default never
  does.
* `draftUsers_lost` — users in the place of the draft are lost with the first deletion.
-/

namespace ShortLinks

namespace FileKeeper

open Disk (ChangesWithin)

variable {k : FileKeeper} {disk : Disk} {s t u : FileKeeper × Disk} {path name : String}

/-! ### Attempts -/

/-- A call on a keeper that may write links. -/
inductive LinkCall where
  | save (fresh key : String) (link : Link)
  | saveBatch (fresh : String → String) (batch : LinkMap)
  | updateBatch (requests : List DeletionRequest)

namespace LinkCall

/-- Answer, keeper and disk after a call. -/
def perform : LinkCall → Call (FileKeeper × Disk) KeeperAnswer
  | .save fresh key link => KeeperCall.perform (.save fresh key link)
  | .saveBatch fresh batch => KeeperCall.perform (.saveBatch fresh batch)
  | .updateBatch requests => KeeperCall.perform (.updateBatch requests)

/-- The path of the file that a call writes first. -/
def writtenPath (k : FileKeeper) : LinkCall → String
  | .save .. | .saveBatch .. => k.linksPath
  | .updateBatch _ => draftPath k.linksPath

end LinkCall

/-- A call, with the calls of the system that are refused meanwhile, and with what stands in its
file if the call fails because a write broke off. -/
structure Attempt where
  call : LinkCall
  refuses : DiskCall → Option IoFailure := fun _ => none
  broken : Option Content := none

/-- The disk with a broken write at a path. -/
def leaving (disk : Disk) (path : String) (content : Content) : Disk :=
  match disk.fileName path with
  | .ok name => disk.put name (.file content)
  | .error _ => disk

/-- Keeper and disk after an attempt. -/
def Attempt.next (s : FileKeeper × Disk) (attempt : Attempt) : FileKeeper × Disk :=
  let (answer, k, disk) := attempt.call.perform (s.1, s.2.refusing attempt.refuses)
  match answer, attempt.broken with
  | .error _, some content => (k, leaving disk (attempt.call.writtenPath s.1) content)
  | _, _ => (k, disk)

/-- Without a broken write, what the call itself does is all. -/
theorem Attempt.next_of_unbroken {attempt : Attempt} (unbroken : attempt.broken = none) :
    attempt.next s = (attempt.call.perform (s.1, s.2.refusing attempt.refuses)).2 := by
  simp [Attempt.next, unbroken]

/-! ### Where calls write -/

/-- The names at which calls on links write, if there is a file to write: that of the links and that
of their draft. -/
def WritesAt (linksPath : String) (disk : Disk) (name : String) : Prop :=
  ∃ target, disk.fileName linksPath = .ok target ∧
    (name = target ∨ disk.fileName (draftPath linksPath) = .ok name)

theorem writesAt_congr {other : Disk} {may : String → Prop}
    (within : ChangesWithin may disk other) : WritesAt path other name ↔
      WritesAt path disk name := by
  simp only [WritesAt, within.fileName_ok_iff]

/-- Adding lines changes the file that they are added to, and needs one. -/
theorem of_appendRecords {α : Type} {toJson : α → Json} {items : List α} {after : Disk}
    (added : appendRecords toJson path items disk = .ok after) :
    (items = [] ∧ after = disk) ∨ ∃ target, disk.fileName path = .ok target ∧
      after = disk.put target
        (.file ((Disk.contentOf (disk.entry? target)).append (encodeLines toJson items))) := by
  unfold appendRecords at added
  split at added
  · next none =>
      cases added
      exact .inl ⟨List.isEmpty_iff.mp none, rfl⟩
  · split at added
    · next appended =>
        cases added
        exact .inr (Disk.appendText_ok appended)
    · cases added

theorem changesWithin_appendRecords {α : Type} {toJson : α → Json} {items : List α} {after : Disk}
    (added : appendRecords toJson path items disk = .ok after) :
    ChangesWithin (WritesAt path disk) disk after := by
  obtain ⟨-, rfl⟩ | ⟨target, named, rfl⟩ := of_appendRecords added
  · exact .refl _ _
  · exact Disk.changesWithin_put named ⟨target, named, .inl rfl⟩ _

/-- Writing anew changes the file and its draft, whether it succeeds or fails. -/
theorem changesWithin_writeAnew {target : String} (named : disk.fileName path = .ok target)
    (links : List Link) :
    ChangesWithin (WritesAt path disk) disk (writeAnew path links disk).2 := by
  unfold writeAnew
  split
  · exact .refl _ _
  · next drafted written =>
      split
      · next after renamed =>
          obtain ⟨source, target, sourceName, targetName, rfl⟩ := Disk.eq_replaced written renamed
          exact Disk.changesWithin_replaced sourceName targetName
            ⟨target, targetName, .inr sourceName⟩ ⟨target, targetName, .inl rfl⟩ _
      · obtain ⟨source, sourceName, rfl⟩ := Disk.writeText_ok written
        exact Disk.changesWithin_put sourceName ⟨target, named, .inr sourceName⟩ _

/-! ### What an attempt keeps -/

/-- The index is sound, and the links that it holds have a name to stand at. -/
structure Grounded (s : FileKeeper × Disk) : Prop where
  sound : s.1.links.Sound
  named : s.1.links.byKey ≠ ∅ → s.2.Writable s.1.linksPath

/-- What calls on links leave as it was: the paths, and all files but those that such calls
write. -/
structure Keeps (s t : FileKeeper × Disk) : Prop where
  path : t.1.linksPath = s.1.linksPath
  within : ChangesWithin (WritesAt s.1.linksPath s.2) s.2 t.2
  grounded : Grounded t

theorem Keeps.refl (grounded : Grounded s) : Keeps s s := ⟨rfl, .refl _ _, grounded⟩

theorem Keeps.trans (first : Keeps s t) (later : Keeps t u) : Keeps s u where
  path := later.path.trans first.path
  within := by
    refine first.within.trans (later.within.mono fun name writes => ?_)
    rw [first.path] at writes
    exact (writesAt_congr first.within).mp writes
  grounded := later.grounded

theorem Grounded.refusing (grounded : Grounded s) (refuses : DiskCall → Option IoFailure) :
    Keeps s (s.1, s.2.refusing refuses) where
  path := rfl
  within := Disk.changesWithin_refusing _ _ _
  grounded := ⟨grounded.sound, fun held =>
    (grounded.named held).imp fun _ named => (Disk.fileName_refusing _ _).trans named⟩

/-- Lines that were added have a file, and links that were there keep theirs. -/
theorem Grounded.appended (grounded : Grounded (k, disk)) {index : LinkIndex} {items : List Link}
    {after : Disk} (added : appendRecords Link.toJson k.linksPath items disk = .ok after)
    (sound : index.Sound) (same : items = [] → index = k.links) :
    Keeps (k, disk) ({ k with links := index }, after) where
  path := rfl
  within := changesWithin_appendRecords added
  grounded := by
    refine ⟨sound, fun held => ?_⟩
    obtain ⟨none, rfl⟩ | ⟨target, named, rfl⟩ := of_appendRecords added
    · rw [same none] at held
      exact grounded.named held
    · exact ⟨target, (Disk.sameTree_put (Disk.fileName_ok_iff.mp named).2 _).fileName_ok_iff.mpr
        named⟩

theorem keeps_save (grounded : Grounded (k, disk)) (fresh key : String) (link : Link) :
    Keeps (k, disk) (save fresh key link (k, disk)).2 := by
  have sound : (save fresh key link (k, disk)).2.1.links.Sound :=
    sound_save grounded.sound fresh key link
  cases answered : save fresh key link (k, disk) with
  | mk answer after =>
      rw [answered] at sound
      cases answer with
      | error fault =>
          rw [save_undone grounded.sound answered]
          exact .refl grounded
      | ok inserted =>
          unfold save at answered
          dsimp only at answered
          split at answered
          · cases answered
            exact .refl grounded
          · split at answered
            · next added =>
                cases answered
                exact grounded.appended added sound fun none => absurd none (List.cons_ne_nil _ _)
            · cases answered

theorem keeps_saveBatch (grounded : Grounded (k, disk)) (fresh : String → String)
    (batch : LinkMap) : Keeps (k, disk) (saveBatch fresh batch (k, disk)).2 := by
  have sound : (saveBatch fresh batch (k, disk)).2.1.links.Sound :=
    sound_saveBatch grounded.sound fresh batch
  cases answered : saveBatch fresh batch (k, disk) with
  | mk answer after =>
      rw [answered] at sound
      cases answer with
      | error fault =>
          rw [saveBatch_undone grounded.sound answered]
          exact .refl grounded
      | ok report =>
          unfold saveBatch at answered
          dsimp only at answered
          split at answered
          · cases answered
            exact .refl grounded
          · split at answered
            · next added =>
                cases answered
                refine grounded.appended added sound fun none => ?_
                rw [LinkIndex.insertBatch] at none ⊢
                rw [LinkIndex.index_insertEntries, none]
                rfl
            · cases answered

/-- Marks are set in links that are there, so the file that is written anew has a name. -/
theorem Grounded.named_of_marked (grounded : Grounded (k, disk)) {requests : List DeletionRequest}
    {links : LinkIndex} (marked : k.links.tombstone requests = (links, true)) :
    disk.Writable k.linksPath := by
  refine grounded.named fun blank => ?_
  have changed : (LinkMap.tombstone k.links.byKey requests).2 = true :=
    congrArg Prod.snd marked
  obtain ⟨key, link, found, -⟩ := LinkMap.tombstonePairs_changes_iff.mp changed
  rw [blank] at found
  simp at found

theorem keeps_updateBatch (grounded : Grounded (k, disk)) (requests : List DeletionRequest) :
    Keeps (k, disk) (updateBatch requests (k, disk)).2 := by
  have sound : (updateBatch requests (k, disk)).2.1.links.Sound :=
    sound_updateBatch grounded.sound requests
  unfold updateBatch at sound ⊢
  dsimp only at sound ⊢
  cases marking : k.links.tombstone requests with
  | mk links changed =>
      rw [marking] at sound
      cases changed with
      | false => exact .refl grounded
      | true =>
          obtain ⟨target, named⟩ := grounded.named_of_marked marking
          have within := changesWithin_writeAnew named (sortedLinks links)
          have namedAfter : (writeAnew k.linksPath (sortedLinks links) disk).2.Writable
              k.linksPath := ⟨target, within.fileName_ok_iff.mpr named⟩
          dsimp only at sound ⊢
          cases written : writeAnew k.linksPath (sortedLinks links) disk with
          | mk answer after =>
              rw [written] at sound within namedAfter
              cases answer with
              | ok done => exact ⟨rfl, within, sound, fun _ => namedAfter⟩
              | error fault => exact ⟨rfl, within, sound, fun _ => namedAfter⟩

theorem Grounded.perform (grounded : Grounded s) (call : LinkCall) :
    Keeps s (call.perform s).2 := by
  cases call with
  | save fresh key link => exact keeps_save grounded fresh key link
  | saveBatch fresh batch => exact keeps_saveBatch grounded fresh batch
  | updateBatch requests => exact keeps_updateBatch grounded requests

/-- What a broken write leaves stands where the call writes anyway. -/
theorem Keeps.leaving {written : String} (keeps : Keeps s t)
    (writes : ∀ name, s.2.fileName written = .ok name → WritesAt s.1.linksPath s.2 name)
    (content : Content) : Keeps s (t.1, FileKeeper.leaving t.2 written content) := by
  unfold FileKeeper.leaving
  split
  · next name found =>
      have mem := writes name (keeps.within.fileName_ok_iff.mp found)
      have within := Disk.changesWithin_put found mem content
      refine ⟨keeps.path, keeps.within.trans within, keeps.grounded.sound, fun held => ?_⟩
      exact (keeps.grounded.named held).imp fun name named => within.fileName_ok_iff.mpr named
  · exact keeps

theorem of_updateBatch_error {requests : List DeletionRequest} {fault : Fault}
    (failed : (updateBatch requests (k, disk)).1 = .error fault) :
    ∃ links, k.links.tombstone requests = (links, true) := by
  unfold updateBatch at failed
  dsimp only at failed
  split at failed
  · cases failed
  · next links marked => exact ⟨links, marked⟩

/-- A call that fails writes its first file at a name where calls on links write. -/
theorem Grounded.writesAt (grounded : Grounded s) {call : LinkCall} {fault : Fault}
    (failed : (call.perform s).1 = .error fault)
    (named : s.2.fileName (call.writtenPath s.1) = .ok name) : WritesAt s.1.linksPath s.2 name := by
  cases call with
  | save fresh key link => exact ⟨name, named, .inl rfl⟩
  | saveBatch fresh batch => exact ⟨name, named, .inl rfl⟩
  | updateBatch requests =>
      have answered : updateBatch requests s = _ := of_answering_error failed
      obtain ⟨links, marked⟩ := of_updateBatch_error (congrArg Prod.fst answered)
      obtain ⟨target, standing⟩ := grounded.named_of_marked marked
      exact ⟨target, standing, .inr named⟩

/-- **An attempt changes no file but those that calls on links write.** -/
theorem keeps_next (grounded : Grounded s) (attempt : Attempt) :
    Keeps s (attempt.next s) := by
  have begun := grounded.refusing attempt.refuses
  have performed := begun.grounded.perform attempt.call
  unfold Attempt.next
  cases answered : attempt.call.perform (s.1, s.2.refusing attempt.refuses) with
  | mk answer after =>
      rw [answered] at performed
      dsimp only
      split
      · next fault content _ =>
          refine begun.trans (performed.leaving (fun name named => ?_) content)
          exact begun.grounded.writesAt (congrArg Prod.fst answered) named
      · exact begun.trans performed

theorem keeps_run (grounded : Grounded s) (attempts : List Attempt) :
    Keeps s (attempts.foldl Attempt.next s) := by
  induction attempts generalizing s with
  | nil => exact .refl grounded
  | cons attempt rest ih =>
      have first := keeps_next grounded attempt
      exact first.trans (ih first.grounded)

/-! ### Opened keepers -/

section Opened

variable {linksPath usersPath : String}

theorem of_ofPaths (opened : ofPaths linksPath usersPath disk = .ok k) :
    k.linksPath = linksPath ∧
      ∃ links, readLinks linksPath disk = .ok links ∧ k.links = .ofMap links := by
  unfold ofPaths at opened
  split at opened
  · cases opened
  · cases links : readLinks linksPath disk with
    | error fault =>
        simp only [bind, Except.bind, links] at opened
        cases opened
    | ok table =>
        cases users : readUsers usersPath disk with
        | error fault =>
            simp only [bind, Except.bind, links, users] at opened
            cases opened
        | ok accounts =>
            simp only [bind, Except.bind, links, users] at opened
            cases opened
            exact ⟨rfl, table, rfl, rfl⟩

/-- Links that are read stand in a file. -/
theorem writable_of_readLinks {links : LinkMap} (read : readLinks path disk = .ok links)
    (held : links ≠ ∅) : disk.Writable path := by
  cases found : disk.readText path with
  | ok text => exact Disk.writable_of_readText found
  | error failure =>
      simp only [readLinks, readFile, found] at read
      split at read
      · cases read
        exact absurd rfl held
      · cases read

theorem grounded_of_opened (opened : ofPaths linksPath usersPath disk = .ok k) :
    Grounded (k, disk) := by
  obtain ⟨rfl, links, read, index⟩ := of_ofPaths opened
  have byKey : k.links.byKey = links := index ▸ LinkIndex.byKey_ofList (.refl _)
  refine ⟨?_, fun held => ?_⟩
  · change k.links.Sound
    rw [index]
    exact LinkIndex.sound_ofList (readLinks_keyed read) (.refl _)
  · exact writable_of_readLinks read (byKey ▸ held)

end Opened

/-! ### Runs that reach the users -/

/-- There is always a text that is its own key and is none of these. -/
theorem exists_unused (texts : List String) :
    ∃ text, text ≠ "" ∧ keyOf text = text ∧ text ∉ texts := by
  let bound := (texts.map String.length).sum
  have long (text : String) (mem : text ∈ texts) : text.length ≤ bound :=
    List.le_sum_of_mem (List.mem_map_of_mem mem)
  let text := String.ofList (List.replicate (bound + 1) 'a')
  have chars : text.toList = List.replicate (bound + 1) 'a' := String.toList_ofList
  have only (c : Char) (mem : c ∈ text.toList) : c = 'a' := List.eq_of_mem_replicate (chars ▸ mem)
  have length : text.length = bound + 1 := by
    rw [← String.length_toList, chars, List.length_replicate]
  refine ⟨text, ?_, keyOf_eq_self_iff.mpr ⟨?_, ?_⟩, fun mem => ?_⟩
  · intro blank
    rw [blank] at length
    cases length
  · intro slash
    exact absurd (only '/' slash) (by decide)
  · refine Url.hostedPath?_eq_none_of_notMem fun colon => ?_
    exact absurd (only ':' colon) (by decide)
  · have short := long text mem
    omega

/-- A link to a text under the same text. -/
def linkTo (text : String) : Link :=
  { id := "new", shortUrl := text, originalUrl := text, owner := some "ann" }

/-- A text that an index does not know, neither as a key nor as an address. -/
structure Unused (index : LinkIndex) (text : String) : Prop where
  given : text ≠ ""
  own : keyOf text = text
  noKey : index.byKey[text]? = none
  noUrl : index.keyByUrl[text]? = none

theorem exists_unused_of_index (index : LinkIndex) : ∃ text, Unused index text := by
  obtain ⟨text, given, own, absent⟩ := exists_unused (index.byKey.keys ++ index.keyByUrl.keys)
  rw [List.mem_append, not_or] at absent
  refine ⟨text, given, own, ?_, ?_⟩
  · simpa using absent.1
  · simpa using absent.2

namespace Unused

variable {index : LinkIndex} {text target source : String}

theorem insert_eq (unused : Unused index text) : index.insert text text (linkTo text)
    = (.created (linkTo text), index.put (text, linkTo text)) := by
  obtain ⟨given, own, noKey, noUrl⟩ := unused
  simp [LinkIndex.insert, LinkIndex.holder?, Link.fillShortUrl, Link.ensureId, Link.key, linkTo,
    given, own, noKey, noUrl]

theorem tombstone_eq (unused : Unused index text) :
    ((index.put (text, linkTo text)).tombstone [⟨"ann", [text]⟩]).2 = true := by
  simp [LinkIndex.tombstone, LinkMap.tombstone, DeletionRequest.pairs, LinkMap.tombstonePairs,
    LinkMap.tombstonePair, Link.isDeletedBy, Link.isOwnedBy, Link.key, linkTo, unused.own]

/-- Saving the link adds its line to the file. -/
theorem next_save (unused : Unused k.links text) (named : disk.fileName k.linksPath = .ok target) :
    ∃ line, line ≠ "" ∧ Attempt.next (k, disk) { call := .save text text (linkTo text) }
      = ({ k with links := k.links.put (text, linkTo text) },
          (disk.refusing fun _ => none).put target
            (.file ((Disk.contentOf (disk.entry? target)).append line))) := by
  have namedThere : (disk.refusing fun _ => none).fileName k.linksPath = .ok target :=
    (Disk.fileName_refusing _ _).trans named
  refine ⟨encodeLines Link.toJson [linkTo text], by simp [encodeLines_cons], ?_⟩
  have added : appendRecords Link.toJson k.linksPath [linkTo text] (disk.refusing fun _ => none)
      = .ok ((disk.refusing fun _ => none).put target (.file ((Disk.contentOf
          (disk.entry? target)).append (encodeLines Link.toJson [linkTo text])))) := by
    simp only [appendRecords, Disk.appendText, namedThere]
    rfl
  rw [Attempt.next_of_unbroken rfl]
  change (save text text (linkTo text) (k, disk.refusing fun _ => none)).2 = _
  simp only [save, unused.insert_eq, added]

end Unused

/-- The calls of a system in which no draft takes its place. -/
def renamesRefused : DiskCall → Option IoFailure
  | .rename _ _ => some (.os 13)
  | _ => none

section Drafted

variable {source target : String} {requests : List DeletionRequest} {index : LinkIndex}

theorem writeAnew_of_stuck (stuck : disk.refuses = renamesRefused)
    (draft : disk.fileName (draftPath path) = .ok source) (links : List Link) :
    writeAnew path links disk = (.error ⟨.fileOperation, (IoFailure.os 13).text⟩,
      disk.put source (.file (.text (encodeLines Link.toJson links)))) := by
  have written : disk.writeText (draftPath path) (encodeLines Link.toJson links)
      = .ok (disk.put source (.file (.text (encodeLines Link.toJson links)))) := by
    simp only [Disk.writeText, Disk.unlessRefused, stuck, renamesRefused, draft]
    rfl
  have stays : Disk.rename (disk.put source (.file (.text (encodeLines Link.toJson links))))
      (draftPath path) path = .error (.os 13) := by
    have refused : Disk.refuses (disk.put source (.file (.text (encodeLines Link.toJson links))))
        = renamesRefused := stuck
    simp only [Disk.rename, Disk.unlessRefused, refused, renamesRefused]
  simp only [writeAnew, written, stays]

/-- Whatever stood in the place of the draft, some deletion leaves something else there: one that
goes well leaves nothing, and one whose draft may not take its place leaves the draft. -/
theorem exists_deletion (marked : k.links.tombstone requests = (index, true))
    (draft : disk.fileName (draftPath k.linksPath) = .ok source)
    (named : disk.fileName k.linksPath = .ok target) (apart : source ≠ target)
    (before : Option Entry) :
    ∃ attempt : Attempt, Disk.entry? (attempt.next (k, disk)).2 source ≠ before := by
  have plainDraft := (Disk.fileName_ok_iff.mp draft).2
  have plainLinks := (Disk.fileName_ok_iff.mp named).2
  cases before with
  | some entry =>
      rw [← Disk.fileName_refusing fun _ => none] at draft named
      refine ⟨{ call := .updateBatch requests }, ?_⟩
      rw [Attempt.next_of_unbroken rfl]
      change Disk.entry? (updateBatch requests (k, disk.refusing fun _ => none)).2.2 source
        ≠ some entry
      simp only [updateBatch, marked, writeAnew_eq (fun _ => rfl) draft named]
      rw [Disk.entry?_replaced (d := disk.refusing fun _ => none) plainDraft plainLinks,
        if_neg apart, if_pos rfl]
      exact (Option.some_ne_none entry).symm
  | none =>
      rw [← Disk.fileName_refusing renamesRefused] at draft
      refine ⟨{ call := .updateBatch requests, refuses := renamesRefused }, ?_⟩
      rw [Attempt.next_of_unbroken rfl]
      change Disk.entry? (updateBatch requests (k, disk.refusing renamesRefused)).2.2 source ≠ none
      simp only [updateBatch, marked, writeAnew_of_stuck rfl draft]
      rw [Disk.entry?_put (Disk.ne_root plainDraft), if_pos rfl]
      exact Option.some_ne_none _

end Drafted

/-- What stands where calls on links write is changed by some run. -/
theorem Grounded.exists_changed (grounded : Grounded (k, disk))
    (named : disk.fileName path = .ok name) (writes : WritesAt k.linksPath disk name) :
    ∃ attempts : List Attempt,
      (attempts.foldl Attempt.next (k, disk)).2.at? path ≠ disk.at? path := by
  suffices changed : ∃ attempts : List Attempt,
      Disk.entry? (attempts.foldl Attempt.next (k, disk)).2 name ≠ disk.entry? name by
    refine changed.imp fun attempts => ?_
    have namedAfter := (keeps_run grounded attempts).within.fileName_ok_iff.mpr named
    rw [Disk.at?_of_fileName named, Disk.at?_of_fileName namedAfter]
    exact id
  obtain ⟨text, unused⟩ := exists_unused_of_index k.links
  obtain ⟨target, links, place⟩ := writes
  have plain := (Disk.fileName_ok_iff.mp links).2
  obtain ⟨line, given, saved⟩ := unused.next_save links
  by_cases same : name = target
  · -- The users stand with the links: a saved link adds its line to them.
    subst same
    refine ⟨[{ call := .save text text (linkTo text) }], ?_⟩
    rw [List.foldl_cons, List.foldl_nil, saved]
    simp only [Disk.entry?_put (Disk.ne_root plain), if_true]
    exact Disk.appended_ne given _
  · -- The users stand in the place of the draft: if they are there, a deletion takes them away; if
    -- there is none yet, a deletion that breaks off puts links there.
    have draft := place.resolve_left same
    have within := (keeps_run grounded [{ call := .save text text (linkTo text) }]).within
    rw [List.foldl_cons, List.foldl_nil, saved] at within
    obtain ⟨index, marked⟩ : ∃ index, (k.links.put (text, linkTo text)).tombstone
        [⟨"ann", [text]⟩] = (index, true) := ⟨_, Prod.ext rfl unused.tombstone_eq⟩
    obtain ⟨deletion, changed⟩ := exists_deletion
      (k := { k with links := k.links.put (text, linkTo text) }) marked
      (within.fileName_ok_iff.mpr draft) (within.fileName_ok_iff.mpr links) same (disk.entry? name)
    refine ⟨[{ call := .save text text (linkTo text) }, deletion], ?_⟩
    rwa [List.foldl_cons, List.foldl_cons, List.foldl_nil, saved]

/-! ### The users -/

section Users

variable {linksPath usersPath : String}

/-- What calls on links do not write, no run changes. -/
theorem Grounded.untouched (grounded : Grounded (k, disk))
    (free : ∀ name, disk.fileName path = .ok name → ¬ WritesAt k.linksPath disk name)
    (attempts : List Attempt) :
    (attempts.foldl Attempt.next (k, disk)).2.at? path = disk.at? path :=
  (keeps_run grounded attempts).within.at?_eq free

/-- **Calls on links leave the users alone exactly if they write nowhere near.** A keeper was opened
on the two paths, whatever the files hold. What the path of the users leads to is the same after all
runs of calls on links, whichever calls the system refuses and wherever a write breaks off, exactly
if it names neither the file of the links nor, where there is a file of links to write, the place of
its draft. -/
theorem users_untouched_iff (opened : ofPaths linksPath usersPath disk = .ok k) :
    (∀ attempts : List Attempt,
      (attempts.foldl Attempt.next (k, disk)).2.at? usersPath = disk.at? usersPath) ↔
    ∀ name, disk.fileName usersPath = .ok name → ¬ WritesAt linksPath disk name := by
  have grounded := grounded_of_opened opened
  obtain ⟨rfl, -⟩ := of_ofPaths opened
  constructor
  · intro untouched name named writes
    obtain ⟨attempts, changed⟩ := grounded.exists_changed named writes
    exact changed (untouched attempts)
  · intro free
    exact grounded.untouched free

/-- Users beside the links, under the name that is used if none is given, are in nobody's way. -/
theorem not_writesAt_of_beside (named : disk.fileName (linksPath ++ ".users") = .ok name) :
    ¬ WritesAt linksPath disk name := by
  have placed := (Disk.fileName_ok_iff.mp named).1
  rintro ⟨target, links, rfl | draft⟩
  · exact Disk.apart_append (by decide) (by decide) disk linksPath _ _
      (Disk.fileName_ok_iff.mp links).1 placed rfl
  · exact Disk.apart_suffixes (by decide) (by decide) (by decide) (by decide) (by decide) disk
      linksPath _ _ (Disk.fileName_ok_iff.mp draft).1 placed rfl

/-- With no path given for the users, no run of calls on links changes what theirs leads to. -/
theorem untouched_of_usersFile {settings : StorageSettings} (blank : settings.usersFilePath = "")
    (opened : ofPaths settings.filePath settings.usersFile disk = .ok k)
    (attempts : List Attempt) :
    (attempts.foldl Attempt.next (k, disk)).2.at? settings.usersFile
      = disk.at? settings.usersFile := by
  have beside : settings.usersFile = settings.filePath ++ ".users" := by
    simp [StorageSettings.usersFile, blank]
  have grounded := grounded_of_opened opened
  obtain ⟨path, -⟩ := of_ofPaths opened
  rw [beside]
  refine grounded.untouched (fun name named => ?_) attempts
  rw [path]
  exact not_writesAt_of_beside named

end Users

/-- A user. -/
def ann : User := { id := "1", email := "ann" }

/-- A disk with a user in the place where the draft of the links will stand. -/
def draftUsers : Disk :=
  ({} : Disk).put "/links.tmp" (.file (.text (encodeLines User.toJson [ann])))

theorem readUsers_draftUsers : readUsers "/links.tmp" draftUsers = .ok (userMapOf [ann]) := by
  have stands : draftUsers.readText "/links.tmp" = .ok (encodeLines User.toJson [ann]) := by
    decide +kernel
  simp only [readUsers, readFile, stands, readRecords_encodeLines User.lined]
  rfl

theorem draftUsers_opened : ofPaths "/links" "/links.tmp" draftUsers
    = .ok ⟨"/links", "/links.tmp", .ofMap ∅, ⟨userMapOf [ann]⟩⟩ := by
  have missing : draftUsers.readText "/links" = .error .noEntry := by decide +kernel
  have links : readLinks "/links" draftUsers = .ok ∅ := by
    simp only [readLinks, readFile, missing]
    rfl
  have named : ¬ "/links".isEmpty = true := by decide
  rw [ofPaths, if_neg named, links, readUsers_draftUsers]
  rfl

theorem users_untouched_iff_draftUsers : ∃ k : FileKeeper,
    ofPaths "/links" "/links.tmp" draftUsers = .ok k ∧
      ¬ ∀ attempts : List Attempt, (attempts.foldl Attempt.next (k, draftUsers)).2.at? "/links.tmp"
        = draftUsers.at? "/links.tmp" := by
  have users : draftUsers.fileName "/links.tmp" = .ok "/links.tmp" := by decide +kernel
  have links : draftUsers.fileName "/links" = .ok "/links" := by decide +kernel
  refine ⟨_, draftUsers_opened, fun untouched => ?_⟩
  exact (users_untouched_iff draftUsers_opened).mp untouched _ users ⟨_, links, .inr users⟩

/-- The users stand in a file of their own, and a link that is saved and deleted takes them away. -/
theorem draftUsers_lost : ∃ k : FileKeeper,
    ofPaths "/links" "/links.tmp" draftUsers = .ok k ∧ "/links" ≠ "/links.tmp" ∧
      readUsers "/links.tmp" draftUsers = .ok (userMapOf [ann]) ∧
      let attempts : List Attempt := [{ call := .save "2" "a" ⟨"", "", "u", some "ann", false⟩ },
        { call := .updateBatch [⟨"ann", ["a"]⟩] }]
      let after := attempts.foldl Attempt.next (k, draftUsers)
      after.2.at? "/links.tmp" ≠ draftUsers.at? "/links.tmp" ∧
        readUsers "/links.tmp" after.2 = .ok ∅ := by
  refine ⟨_, draftUsers_opened, by decide, readUsers_draftUsers, ?_⟩
  intro attempts after
  have there : (draftUsers.at? "/links.tmp").isSome = true := by decide +kernel
  have gone : (after.2.at? "/links.tmp").isSome = false := by decide +kernel
  have missing : after.2.readText "/links.tmp" = .error .noEntry := by decide +kernel
  constructor
  · intro same
    rw [same, there] at gone
    cases gone
  · simp only [readUsers, readFile, missing]
    rfl

end FileKeeper

end ShortLinks
