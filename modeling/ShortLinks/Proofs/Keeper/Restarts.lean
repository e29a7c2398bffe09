import ShortLinks.Proofs.Disk.Files
import ShortLinks.Proofs.Keeper.Indexed
import ShortLinks.Proofs.Keeper.Interchange
import ShortLinks.Proofs.Keeper.Records

/-!
The keeper of two files, closed and opened again between its calls.

* `Faithful` — the files hold what the indexes of the keeper hold.
* `Follows`, `Faithful.save` and its siblings — a call that the disk does not fail is answered as in
  memory, and leaves files and indexes faithful.
* `Ready`, `Ready.save` and its siblings — a disk in order fails no call.
* `follows_memory` — so a keeper of two files that were missing at first answers every sequence of
  calls and restarts as one keeper in memory that lives through all of them.
-/

namespace ShortLinks

namespace FileKeeper

/-- Did the disk fail a call? -/
def DiskFault {α : Type} (answer : Except Fault α) : Prop :=
  ∃ fault, answer = .error fault ∧ fault.kind = .fileOperation

/-- What the keeper knows without its files. -/
def inMemory (k : FileKeeper) : MemoryKeeper := ⟨k.links, k.users⟩

/-- The files hold what the indexes hold, and writing one file leaves the other one alone. -/
structure Faithful (s : FileKeeper × Disk) : Prop where
  named : s.1.linksPath.isEmpty = false
  sound : s.1.links.Sound
  unique : LinkMap.UniqueUrls s.1.links.byKey
  links : ∃ records, s.2.Holds s.1.linksPath (encodeLines Link.toJson records) ∧
    linkMapOf records = s.1.links.byKey
  users : ∃ records, s.2.Holds s.1.usersPath (encodeLines User.toJson records) ∧
    userMapOf records = s.1.users.byEmail
  apart : s.2.Apart s.1.linksPath s.1.usersPath
  apartDraft : s.2.Apart (draftPath s.1.linksPath) s.1.usersPath
  /-- No file is said to be missing that is there. -/
  honest : ∀ path, s.2.refuses (.read path) ≠ some .noEntry

/-- What a call does: the disk fails it, or it answers as in memory and leaves files and indexes
faithful. -/
inductive Follows {α : Type} (s : FileKeeper × Disk) (call : Call (FileKeeper × Disk) α)
    (remembered : Call MemoryKeeper α) : Prop where
  | failed {fault : Fault} (answer : (call s).1 = .error fault) (kind : fault.kind = .fileOperation)
  | answered {answer : Except Fault α} {links : LinkIndex} {users : UserIndex} {after : Disk}
      (answered : call s = (answer, { s.1 with links := links, users := users }, after))
      (same : remembered s.1.inMemory = (answer, ⟨links, users⟩))
      (faithful : Faithful ({ s.1 with links := links, users := users }, after))
      (tree : s.2.SameTree after)

section Files

variable {α : Type} {toJson : α → Json} {ofJson? : Json → Option α} {path : String}
  {disk after : Disk} {items more : List α}

theorem diskFault_fileFault {β : Type} (context path : String) (failure : IoFailure) :
    DiskFault (.error (fileFault context path failure) : Except Fault β) :=
  ⟨_, rfl, rfl⟩

/-- Reading gives the records of a file. -/
theorem readFile_of_holds (lined : Lined toJson ofJson?)
    (holds : disk.Holds path (encodeLines toJson items))
    (honest : disk.refuses (.read path) ≠ some .noEntry) :
    DiskFault (readFile ofJson? path disk) ∨ readFile ofJson? path disk = .ok items := by
  unfold readFile
  cases answer : disk.readText path with
  | ok text =>
      right
      rw [holds.eq_of_readText answer]
      exact congrArg Except.ok (readRecords_encodeLines lined items)
  | error failure =>
      dsimp only
      by_cases gone : failure = .noEntry
      · right
        subst gone
        rw [if_pos rfl, ← readRecords_encodeLines lined items,
          holds.eq_empty_of_readText honest answer]
        rfl
      · left
        rw [if_neg gone]
        exact diskFault_fileFault _ _ _

/-- Adding records adds their lines. -/
theorem holds_of_appendRecords (holds : disk.Holds path (encodeLines toJson items))
    (answered : appendRecords toJson path more disk = .ok after) :
    after.Holds path (encodeLines toJson (items ++ more)) ∧ disk.SameTree after ∧
      ∀ {other text : String}, disk.Apart path other → disk.Holds other text →
        after.Holds other text := by
  unfold appendRecords at answered
  split at answered
  · next none =>
      obtain rfl := List.isEmpty_iff.mp none
      cases answered
      exact ⟨by rwa [List.append_nil], .refl _, fun _ holds => holds⟩
  · split at answered
    · next added =>
        cases answered
        refine ⟨?_, Disk.sameTree_of_appendText added, fun apart holds =>
          holds.appendText_of_apart apart added⟩
        rw [encodeLines_append]
        exact holds.appendText added
    · cases answered

theorem diskFault_of_appendRecords {fault : Fault}
    (failed : appendRecords toJson path more disk = .error fault) :
    fault.kind = .fileOperation := by
  unfold appendRecords at failed
  split at failed
  · cases failed
  · split at failed
    · cases failed
    · cases failed
      rfl

/-- Writing a file anew leaves the lines of these records and nothing else. -/
theorem holds_of_writeAnew {links : List Link} {done : Unit}
    (answered : writeAnew path links disk = (.ok done, after)) :
    after.Holds path (encodeLines Link.toJson links) ∧ disk.SameTree after ∧
      ∀ {other text : String}, disk.Apart (draftPath path) other → disk.Apart path other →
        disk.Holds other text → after.Holds other text := by
  unfold writeAnew at answered
  split at answered
  · cases (Prod.mk.inj answered).1
  · next drafted written =>
      split at answered
      · next renamed =>
          obtain ⟨-, rfl⟩ := Prod.mk.inj answered
          exact ⟨Disk.holds_of_replace written renamed, Disk.sameTree_of_replace written renamed,
            fun apartDraft apart holds => holds.replace_of_apart apartDraft apart written renamed⟩
      · cases (Prod.mk.inj answered).1

theorem diskFault_of_writeAnew {links : List Link} {fault : Fault}
    (failed : writeAnew path links disk = (.error fault, after)) : fault.kind = .fileOperation := by
  unfold writeAnew at failed
  split at failed
  · obtain ⟨answer, -⟩ := Prod.mk.inj failed
    cases answer
    rfl
  · split at failed
    · cases (Prod.mk.inj failed).1
    · obtain ⟨answer, -⟩ := Prod.mk.inj failed
      cases answer
      rfl

end Files

variable {k : FileKeeper} {disk : Disk}

/-- The links are read as the index has them. -/
theorem Faithful.readLinks (faithful : Faithful (k, disk)) :
    DiskFault (readLinks k.linksPath disk) ∨ readLinks k.linksPath disk = .ok k.links.byKey := by
  obtain ⟨records, holds, table⟩ := faithful.links
  unfold FileKeeper.readLinks
  rcases readFile_of_holds Link.lined holds (faithful.honest _) with ⟨fault, failed, kind⟩ | read
  · exact .inl ⟨fault, by rw [failed]; rfl, kind⟩
  · exact .inr (by rw [read, ← table]; rfl)

theorem Faithful.readUsers (faithful : Faithful (k, disk)) :
    DiskFault (readUsers k.usersPath disk) ∨ readUsers k.usersPath disk = .ok k.users.byEmail := by
  obtain ⟨records, holds, table⟩ := faithful.users
  unfold FileKeeper.readUsers
  rcases readFile_of_holds User.lined holds (faithful.honest _) with ⟨fault, failed, kind⟩ | read
  · exact .inl ⟨fault, by rw [failed]; rfl, kind⟩
  · exact .inr (by rw [read, ← table]; rfl)

/-! ### Calls -/

/-- New links beside the same users. -/
theorem Faithful.withLinks (faithful : Faithful (k, disk)) {links : LinkIndex} {after : Disk}
    {records : List Link} (sound : links.Sound) (unique : LinkMap.UniqueUrls links.byKey)
    (tree : disk.SameTree after)
    (holds : after.Holds k.linksPath (encodeLines Link.toJson records))
    (table : linkMapOf records = links.byKey)
    (beside : ∀ {text : String}, disk.Holds k.usersPath text → after.Holds k.usersPath text) :
    Faithful ({ k with links := links }, after) where
  named := faithful.named
  sound := sound
  unique := unique
  links := ⟨records, holds, table⟩
  users := by
    obtain ⟨users, kept, tableUsers⟩ := faithful.users
    exact ⟨users, beside kept, tableUsers⟩
  apart := tree.apart faithful.apart
  apartDraft := tree.apart faithful.apartDraft
  honest path := by
    rw [tree.refuses]
    exact faithful.honest path

/-- New users beside the same links. -/
theorem Faithful.withUsers (faithful : Faithful (k, disk)) {users : UserIndex} {after : Disk}
    {records : List User} (tree : disk.SameTree after)
    (holds : after.Holds k.usersPath (encodeLines User.toJson records))
    (table : userMapOf records = users.byEmail)
    (beside : ∀ {text : String}, disk.Holds k.linksPath text → after.Holds k.linksPath text) :
    Faithful ({ k with users := users }, after) where
  named := faithful.named
  sound := faithful.sound
  unique := faithful.unique
  links := by
    obtain ⟨links, kept, tableLinks⟩ := faithful.links
    exact ⟨links, beside kept, tableLinks⟩
  users := ⟨records, holds, table⟩
  apart := tree.apart faithful.apart
  apartDraft := tree.apart faithful.apartDraft
  honest path := by
    rw [tree.refuses]
    exact faithful.honest path

theorem follows_load (faithful : Faithful (k, disk)) :
    Follows (k, disk) load (Keeper.load (σ := MemoryKeeper)) := by
  rcases faithful.readLinks with ⟨fault, failed, kind⟩ | read
  · exact .failed (by simp only [load, failed]) kind
  · have again : LinkIndex.ofMap k.links.byKey = k.links :=
      faithful.sound.ofMap_byKey faithful.unique
    have reply : load (k, disk) = (.ok k.links.byKey, k, disk) := by
      simp only [load, read, again]
    exact .answered reply rfl faithful (.refl _)

theorem follows_loadUsers (faithful : Faithful (k, disk)) :
    Follows (k, disk) loadUsers (Keeper.loadUsers (σ := MemoryKeeper)) := by
  rcases faithful.readUsers with ⟨fault, failed, kind⟩ | read
  · exact .failed (by simp only [loadUsers, failed]) kind
  · have reply : loadUsers (k, disk) = (.ok k.users.byEmail, k, disk) := by
      simp only [loadUsers, read]
    exact .answered reply rfl faithful (.refl _)

theorem follows_save (faithful : Faithful (k, disk)) (fresh key : String) (link : Link) :
    Follows (k, disk) (save fresh key link) (MemoryKeeper.save fresh key link) := by
  have sound := faithful.sound.insert fresh key link
  have unique := faithful.sound.uniqueUrls_insert faithful.unique fresh key link
  obtain ⟨records, holds, table⟩ := faithful.links
  cases insertion : k.links.insert fresh key link with
  | mk outcome links =>
      have same : MemoryKeeper.save fresh key link k.inMemory
          = (.ok outcome, ⟨links, k.users⟩) := by
        simp only [MemoryKeeper.save, inMemory, insertion]
      rw [insertion] at sound unique
      cases outcome with
      | existing holder =>
          obtain rfl := LinkIndex.eq_of_insert_existing insertion
          have reply : save fresh key link (k, disk) = (.ok (.existing holder), k, disk) := by
            simp only [save, insertion]
          exact .answered reply same faithful (.refl _)
      | created stored =>
          cases attempt : appendRecords Link.toJson k.linksPath [stored] disk with
          | error fault =>
              exact .failed (by simp only [save, insertion, attempt])
                (diskFault_of_appendRecords attempt)
          | ok after =>
              obtain ⟨added, tree, beside⟩ := holds_of_appendRecords holds attempt
              have byKey : linkMapOf (records ++ [stored]) = links.byKey := by
                rw [linkMapOf_append, table, LinkIndex.eq_of_insert_created insertion]
                rfl
              have reply : save fresh key link (k, disk)
                  = (.ok (.created stored), { k with links := links }, after) := by
                simp only [save, insertion, attempt]
              exact .answered reply same
                (faithful.withLinks sound unique tree added byKey (beside faithful.apart)) tree

theorem follows_saveBatch (faithful : Faithful (k, disk)) (fresh : String → String)
    (batch : LinkMap) :
    Follows (k, disk) (saveBatch fresh batch) (MemoryKeeper.saveBatch fresh batch) := by
  have filed := faithful.sound.insertBatch_filed fresh batch
  obtain ⟨records, holds, table⟩ := faithful.links
  cases blank : batch.isEmpty with
  | true =>
      have nothing : k.links.insertBatch fresh batch = ⟨{}, [], k.links⟩ := by
        rw [LinkIndex.insertBatch, Std.ExtTreeMap.isEmpty_iff.mp blank]
        rfl
      have same : MemoryKeeper.saveBatch fresh batch k.inMemory
          = (.ok {}, ⟨k.links, k.users⟩) := by
        simp only [MemoryKeeper.saveBatch, inMemory, nothing]
      have reply : saveBatch fresh batch (k, disk) = (.ok {}, k, disk) := by
        simp only [saveBatch, blank, if_true]
      exact .answered reply same faithful (.refl _)
  | false =>
      generalize result : k.links.insertBatch fresh batch = r at filed
      have same : MemoryKeeper.saveBatch fresh batch k.inMemory
          = (.ok r.report, ⟨r.index, k.users⟩) := by
        simp only [MemoryKeeper.saveBatch, inMemory, result]
      cases attempt : appendRecords Link.toJson k.linksPath r.created disk with
      | error fault =>
          exact .failed (by simp [saveBatch, blank, result, attempt])
            (diskFault_of_appendRecords attempt)
      | ok after =>
          obtain ⟨added, tree, beside⟩ := holds_of_appendRecords holds attempt
          have byKey : linkMapOf (records ++ r.created) = r.index.byKey := by
            rw [linkMapOf_append, table, ← result, LinkIndex.insertBatch,
              LinkIndex.byKey_insertEntries]
          have reply : saveBatch fresh batch (k, disk)
              = (.ok r.report, { k with links := r.index }, after) := by
            simp [saveBatch, blank, result, attempt]
          exact .answered reply same
            (faithful.withLinks filed.sound (filed.uniqueUrls faithful.unique) tree added byKey
              (beside faithful.apart)) tree

theorem follows_updateBatch (faithful : Faithful (k, disk)) (requests : List DeletionRequest) :
    Follows (k, disk) (updateBatch requests) (MemoryKeeper.updateBatch requests) := by
  have sound := faithful.sound.tombstone requests
  have unique : LinkMap.UniqueUrls (k.links.tombstone requests).1.byKey :=
    faithful.unique.tombstone requests
  cases marking : k.links.tombstone requests with
  | mk links changed =>
      have same : MemoryKeeper.updateBatch requests k.inMemory = (.ok (), ⟨links, k.users⟩) := by
        simp only [MemoryKeeper.updateBatch, inMemory, marking]
      cases changed with
      | false =>
          have unchanged := LinkIndex.tombstone_eq_self (congrArg Prod.snd marking)
          rw [marking] at unchanged
          subst unchanged
          have reply : updateBatch requests (k, disk) = (.ok (), k, disk) := by
            simp only [updateBatch, marking]
          exact .answered reply same faithful (.refl _)
      | true =>
          rw [marking] at sound unique
          cases attempt : writeAnew k.linksPath (sortedLinks links) disk with
          | mk answer after =>
              cases answer with
              | error fault =>
                  exact .failed (by simp only [updateBatch, marking, attempt])
                    (diskFault_of_writeAnew attempt)
              | ok done =>
                  obtain ⟨anew, tree, beside⟩ := holds_of_writeAnew attempt
                  have reply : updateBatch requests (k, disk)
                      = (.ok (), { k with links := links }, after) := by
                    simp only [updateBatch, marking, attempt]
                  exact .answered reply same
                    (faithful.withLinks sound unique tree anew (linkMapOf_sortedLinks sound.keyed)
                      (beside faithful.apartDraft faithful.apart)) tree

theorem follows_saveUser (faithful : Faithful (k, disk)) (fresh email : String) (user : User) :
    Follows (k, disk) (saveUser fresh email user) (MemoryKeeper.saveUser fresh email user) := by
  obtain ⟨records, holds, table⟩ := faithful.users
  obtain ⟨own, filled⟩ : ∃ own, (user.fillEmail email).ensureId fresh = own := ⟨_, rfl⟩
  have insertion := k.users.insert_eq filled
  cases known : k.users.byEmail[own.email]? with
  | some stored =>
      rw [known] at insertion
      dsimp only at insertion
      split at insertion
      · have same : MemoryKeeper.saveUser fresh email user k.inMemory
            = (.ok (.existing stored), ⟨k.links, k.users⟩) := by
          simp only [MemoryKeeper.saveUser, inMemory, insertion]
        have reply : saveUser fresh email user (k, disk) = (.ok (.existing stored), k, disk) := by
          simp only [saveUser, insertion]
        exact .answered reply same faithful (.refl _)
      · have same : MemoryKeeper.saveUser fresh email user k.inMemory
            = (.error (.credentialMismatch own.email), ⟨k.links, k.users⟩) := by
          simp only [MemoryKeeper.saveUser, inMemory, insertion]
        have reply : saveUser fresh email user (k, disk)
            = (.error (.credentialMismatch own.email), k, disk) := by
          simp only [saveUser, insertion]
        exact .answered reply same faithful (.refl _)
  | none =>
      rw [known] at insertion
      have same : MemoryKeeper.saveUser fresh email user k.inMemory
          = (.ok (.created own), ⟨k.links, ⟨k.users.byEmail.insert own.email own⟩⟩) := by
        simp only [MemoryKeeper.saveUser, inMemory, insertion]
      cases attempt : appendRecords User.toJson k.usersPath [own] disk with
      | error fault =>
          exact .failed (by simp only [saveUser, insertion, attempt])
            (diskFault_of_appendRecords attempt)
      | ok after =>
          obtain ⟨added, tree, beside⟩ := holds_of_appendRecords holds attempt
          have byEmail : userMapOf (records ++ [own]) = k.users.byEmail.insert own.email own := by
            rw [userMapOf_concat, table]
          have reply : saveUser fresh email user (k, disk)
              = (.ok (.created own), { k with users := ⟨k.users.byEmail.insert own.email own⟩ },
                  after) := by
            simp only [saveUser, insertion, attempt]
          exact .answered reply same
            (faithful.withUsers tree added byEmail (beside faithful.apart.symm)) tree

/-! ### Restarts -/

/-- The keeper is dropped, and another one is opened on its paths. -/
def reopen : Call (FileKeeper × Disk) Unit := fun (k, disk) =>
  match ofPaths k.linksPath k.usersPath disk with
  | .ok opened => (.ok (), opened, disk)
  | .error fault => (.error fault, k, disk)

/-- Opening a keeper on faithful files gives the keeper back. -/
theorem Faithful.opens (faithful : Faithful (k, disk)) :
    DiskFault (ofPaths k.linksPath k.usersPath disk) ∨
      ofPaths k.linksPath k.usersPath disk = .ok k := by
  have named : ¬ k.linksPath.isEmpty = true := Bool.eq_false_iff.mp faithful.named
  have again : LinkIndex.ofMap k.links.byKey = k.links :=
    faithful.sound.ofMap_byKey faithful.unique
  rcases faithful.readLinks with ⟨fault, failed, kind⟩ | links
  · exact .inl ⟨fault, by simp [ofPaths, named, failed, bind, Except.bind], kind⟩
  rcases faithful.readUsers with ⟨fault, failed, kind⟩ | users
  · exact .inl ⟨fault, by simp [ofPaths, named, links, failed, bind, Except.bind], kind⟩
  right
  simp [ofPaths, named, links, users, again, bind, Except.bind, pure, Except.pure]

theorem follows_reopen (faithful : Faithful (k, disk)) :
    Follows (k, disk) reopen fun memory => (.ok (), memory) := by
  rcases faithful.opens with ⟨fault, failed, kind⟩ | opened
  · exact .failed (by simp only [reopen, failed]) kind
  · have reply : reopen (k, disk) = (.ok (), k, disk) := by simp only [reopen, opened]
    exact .answered reply rfl faithful (.refl _)

/-- What happens to a keeper of two files: a call, or a restart. -/
inductive Event where
  | call (made : KeeperCall)
  | restart

namespace Event

/-- An event as the keeper of two files meets it. -/
def perform : Event → Call (FileKeeper × Disk) KeeperAnswer
  | .call made => made.perform
  | .restart => KeeperCall.answering (fun _ => .done) reopen

/-- An event as a keeper in memory meets it that lives through all restarts. -/
def performInMemory : Event → Call MemoryKeeper KeeperAnswer
  | .call made => made.perform
  | .restart => fun memory => (.ok .done, memory)

end Event

theorem Follows.answering {α : Type} {s : FileKeeper × Disk} {call : Call (FileKeeper × Disk) α}
    {remembered : Call MemoryKeeper α} (follows : Follows s call remembered)
    (kind : α → KeeperAnswer) :
    Follows s (KeeperCall.answering kind call) (KeeperCall.answering kind remembered) := by
  cases follows with
  | failed answer kindOf => exact .failed (by rw [KeeperCall.answering, answer]; rfl) kindOf
  | answered answered same faithful tree =>
      exact .answered (by rw [KeeperCall.answering, answered])
        (by rw [KeeperCall.answering, same]) faithful tree

/-- **One event** at a keeper whose files are faithful. -/
theorem Faithful.follows {s : FileKeeper × Disk} (faithful : Faithful s) (event : Event) :
    Follows s event.perform event.performInMemory := by
  obtain ⟨k, disk⟩ := s
  cases event with
  | restart => exact (follows_reopen faithful).answering _
  | call made =>
      cases made with
      | save fresh key link => exact (follows_save faithful fresh key link).answering _
      | saveUser fresh email user => exact (follows_saveUser faithful fresh email user).answering _
      | saveBatch fresh batch => exact (follows_saveBatch faithful fresh batch).answering _
      | updateBatch requests => exact (follows_updateBatch faithful requests).answering _
      | load => exact (follows_load faithful).answering _
      | loadUsers => exact (follows_loadUsers faithful).answering _
      | countLinks => exact .answered rfl rfl faithful (.refl _)
      | countUsers => exact .answered rfl rfl faithful (.refl _)

/-! ### Disks in order -/

/-- The disk refuses nothing, and both files and the draft may be written. -/
structure Ready (s : FileKeeper × Disk) : Prop where
  willing : s.2.Willing
  links : s.2.Writable s.1.linksPath
  draft : s.2.Writable (draftPath s.1.linksPath)
  users : s.2.Writable s.1.usersPath

section Order

variable {α : Type} {path : String}

theorem readFile_of_writable (ofJson? : Json → Option α) (willing : disk.Willing)
    (writable : disk.Writable path) {text : String} (holds : disk.Holds path text) :
    ∃ records, readFile ofJson? path disk = .ok records := by
  unfold readFile
  rcases holds.readText_of_writable willing writable with read | ⟨read, -⟩
  · exact ⟨_, by rw [read]⟩
  · exact ⟨_, by rw [read]; rfl⟩

theorem appendRecords_of_writable (toJson : α → Json) (willing : disk.Willing)
    (writable : disk.Writable path) (items : List α) :
    ∃ after, appendRecords toJson path items disk = .ok after := by
  unfold appendRecords
  split
  · exact ⟨_, rfl⟩
  · obtain ⟨after, added⟩ := writable.appendText willing (encodeLines toJson items)
    exact ⟨after, by rw [added]⟩

/-- Writing anew where a file and its draft may stand puts the draft in place of the file. -/
theorem writeAnew_eq {source target : String} (willing : disk.Willing)
    (draft : disk.fileName (draftPath path) = .ok source) (named : disk.fileName path = .ok target)
    (links : List Link) : writeAnew path links disk
      = (.ok (), disk.replaced source target (encodeLines Link.toJson links)) := by
  obtain ⟨drafted, written⟩ :=
    Disk.Writable.writeText ⟨source, draft⟩ willing (encodeLines Link.toJson links)
  obtain ⟨after, renamed⟩ := Disk.Writable.rename ⟨target, named⟩ willing written
  obtain ⟨source', target', draft', named', rfl⟩ := Disk.eq_replaced written renamed
  obtain rfl : source = source' := Except.ok.inj (draft.symm.trans draft')
  obtain rfl : target = target' := Except.ok.inj (named.symm.trans named')
  simp only [writeAnew, written, renamed]

theorem writeAnew_of_writable (willing : disk.Willing) (writable : disk.Writable path)
    (draft : disk.Writable (draftPath path)) (links : List Link) :
    (writeAnew path links disk).1 = .ok () := by
  obtain ⟨source, draft⟩ := draft
  obtain ⟨target, named⟩ := writable
  rw [writeAnew_eq willing draft named]

end Order

theorem not_diskFault_ok {α : Type} {answer : Except Fault α} {value : α}
    (ok : answer = .ok value) : ¬ DiskFault answer := by
  rintro ⟨fault, failed, -⟩
  rw [ok] at failed
  cases failed

theorem not_diskFault_answering {α : Type} {s : FileKeeper × Disk}
    {call : Call (FileKeeper × Disk) α} (fine : ¬ DiskFault (call s).1) (kind : α → KeeperAnswer) :
    ¬ DiskFault (KeeperCall.answering kind call s).1 := by
  rintro ⟨fault, failed, kindOf⟩
  refine fine ⟨fault, ?_, kindOf⟩
  cases answer : (call s).1 with
  | ok value =>
      rw [KeeperCall.answering, answer] at failed
      cases failed
  | error other =>
      rw [KeeperCall.answering, answer] at failed
      cases failed
      rfl

theorem Ready.readLinks (ready : Ready (k, disk)) (faithful : Faithful (k, disk)) :
    FileKeeper.readLinks k.linksPath disk = .ok k.links.byKey := by
  rcases faithful.readLinks with ⟨fault, failed, -⟩ | read
  · obtain ⟨records, holds, -⟩ := faithful.links
    obtain ⟨found, read⟩ := readFile_of_writable Link.ofJson? ready.willing ready.links holds
    rw [FileKeeper.readLinks, read] at failed
    cases failed
  · exact read

theorem Ready.readUsers (ready : Ready (k, disk)) (faithful : Faithful (k, disk)) :
    FileKeeper.readUsers k.usersPath disk = .ok k.users.byEmail := by
  rcases faithful.readUsers with ⟨fault, failed, -⟩ | read
  · obtain ⟨records, holds, -⟩ := faithful.users
    obtain ⟨found, read⟩ := readFile_of_writable User.ofJson? ready.willing ready.users holds
    rw [FileKeeper.readUsers, read] at failed
    cases failed
  · exact read

theorem Ready.save (ready : Ready (k, disk)) (fresh key : String) (link : Link) :
    ∃ inserted, (save fresh key link (k, disk)).1 = .ok inserted := by
  cases insertion : k.links.insert fresh key link with
  | mk outcome links =>
      cases outcome with
      | existing holder => exact ⟨.existing holder, by simp only [FileKeeper.save, insertion]⟩
      | created stored =>
          obtain ⟨after, added⟩ := appendRecords_of_writable Link.toJson ready.willing ready.links
            [stored]
          exact ⟨.created stored, by simp only [FileKeeper.save, insertion, added]⟩

theorem Ready.saveBatch (ready : Ready (k, disk)) (fresh : String → String) (batch : LinkMap) :
    ∃ report, (saveBatch fresh batch (k, disk)).1 = .ok report := by
  obtain ⟨after, added⟩ := appendRecords_of_writable Link.toJson ready.willing ready.links
    (k.links.insertBatch fresh batch).created
  cases blank : batch.isEmpty with
  | true => exact ⟨{}, by simp [FileKeeper.saveBatch, blank]⟩
  | false =>
      exact ⟨(k.links.insertBatch fresh batch).report, by
        simp [FileKeeper.saveBatch, blank, added]⟩

theorem Ready.updateBatch (ready : Ready (k, disk)) (requests : List DeletionRequest) :
    (updateBatch requests (k, disk)).1 = .ok () := by
  cases marking : k.links.tombstone requests with
  | mk links changed =>
      cases changed with
      | false => simp only [FileKeeper.updateBatch, marking]
      | true =>
          have anew := writeAnew_of_writable ready.willing ready.links ready.draft
            (sortedLinks links)
          cases attempt : writeAnew k.linksPath (sortedLinks links) disk with
          | mk answer after =>
              obtain rfl : answer = .ok () := by rw [← anew, attempt]
              simp only [FileKeeper.updateBatch, marking, attempt]

/-- Saving a user is refused for a wrong password only. -/
theorem Ready.saveUser (ready : Ready (k, disk)) (fresh email : String) (user : User) :
    ¬ DiskFault (saveUser fresh email user (k, disk)).1 := by
  obtain ⟨own, filled⟩ : ∃ own, (user.fillEmail email).ensureId fresh = own := ⟨_, rfl⟩
  have insertion := k.users.insert_eq filled
  cases known : k.users.byEmail[own.email]? with
  | some stored =>
      simp only [known] at insertion
      split at insertion
      · have reply : (FileKeeper.saveUser fresh email user (k, disk)).1
            = .ok (.existing stored) := by
          simp only [FileKeeper.saveUser, insertion]
        exact not_diskFault_ok reply
      · rintro ⟨fault, failed, kind⟩
        simp only [FileKeeper.saveUser, insertion] at failed
        cases failed
        cases kind
  | none =>
      simp only [known] at insertion
      obtain ⟨after, added⟩ := appendRecords_of_writable User.toJson ready.willing ready.users [own]
      have reply : (FileKeeper.saveUser fresh email user (k, disk)).1 = .ok (.created own) := by
        simp only [FileKeeper.saveUser, insertion, added]
      exact not_diskFault_ok reply

theorem Ready.opens (ready : Ready (k, disk)) (faithful : Faithful (k, disk)) :
    ofPaths k.linksPath k.usersPath disk = .ok k := by
  rcases faithful.opens with ⟨fault, failed, -⟩ | opened
  · have named : ¬ k.linksPath.isEmpty = true := Bool.eq_false_iff.mp faithful.named
    simp [ofPaths, named, ready.readLinks faithful, ready.readUsers faithful, bind, Except.bind,
      pure, Except.pure] at failed
  · exact opened

/-- **A disk in order fails no event.** -/
theorem Ready.not_diskFault {s : FileKeeper × Disk} (ready : Ready s) (faithful : Faithful s)
    (event : Event) : ¬ DiskFault (event.perform s).1 := by
  obtain ⟨k, disk⟩ := s
  have links : (load (k, disk)).1 = .ok k.links.byKey := by
    simp only [load, ready.readLinks faithful]
  have users : (loadUsers (k, disk)).1 = .ok k.users.byEmail := by
    simp only [loadUsers, ready.readUsers faithful]
  cases event with
  | restart =>
      have reply : (reopen (k, disk)).1 = .ok () := by
        simp only [reopen, ready.opens faithful]
      exact not_diskFault_answering (not_diskFault_ok reply) _
  | call made =>
      cases made with
      | save fresh key link =>
          obtain ⟨inserted, reply⟩ := ready.save fresh key link
          exact not_diskFault_answering (not_diskFault_ok reply) _
      | saveUser fresh email user =>
          exact not_diskFault_answering (ready.saveUser fresh email user) _
      | saveBatch fresh batch =>
          obtain ⟨report, reply⟩ := ready.saveBatch fresh batch
          exact not_diskFault_answering (not_diskFault_ok reply) _
      | updateBatch requests =>
          exact not_diskFault_answering (not_diskFault_ok (ready.updateBatch requests)) _
      | load => exact not_diskFault_answering (not_diskFault_ok links) _
      | loadUsers => exact not_diskFault_answering (not_diskFault_ok users) _
      | countLinks => exact not_diskFault_ok rfl
      | countUsers => exact not_diskFault_ok rfl

/-! ### Runs -/

/-- The two files of a keeper are missing and do not interfere: the users are neither at the place
of the links nor at that of their draft. No read is refused as if a file were missing. -/
structure NewFiles (linksPath usersPath : String) (disk : Disk) : Prop where
  links : disk.find linksPath = .error .noEntry
  users : disk.find usersPath = .error .noEntry
  apart : disk.Apart linksPath usersPath
  apartDraft : disk.Apart (draftPath linksPath) usersPath
  honest : ∀ path, disk.refuses (.read path) ≠ some .noEntry

/-- A keeper that holds nothing is faithful to new files. -/
theorem NewFiles.faithful {linksPath usersPath : String} (new : NewFiles linksPath usersPath disk)
    (named : linksPath.isEmpty = false) : Faithful (⟨linksPath, usersPath, {}, {}⟩, disk) where
  named := named
  sound := LinkIndex.sound_empty
  unique := LinkMap.uniqueUrls_empty
  links := ⟨[], Disk.holds_of_missing new.links, rfl⟩
  users := ⟨[], Disk.holds_of_missing new.users, rfl⟩
  apart := new.apart
  apartDraft := new.apartDraft
  honest := new.honest

theorem NewFiles.opened {linksPath usersPath : String} (new : NewFiles linksPath usersPath disk)
    (opened : ofPaths linksPath usersPath disk = .ok k) :
    k = ⟨linksPath, usersPath, {}, {}⟩ ∧ Faithful (k, disk) := by
  cases named : linksPath.isEmpty with
  | true => simp [ofPaths, named] at opened
  | false =>
      have faithful := new.faithful named
      have again : ofPaths linksPath usersPath disk = .ok ⟨linksPath, usersPath, {}, {}⟩ := by
        rcases faithful.opens with ⟨fault, failed, -⟩ | again
        · rw [opened] at failed
          cases failed
        · exact again
      rw [again] at opened
      obtain rfl := Except.ok.inj opened
      exact ⟨rfl, faithful⟩

/-- New files on a disk in order can be opened. -/
theorem NewFiles.opens {linksPath usersPath : String} (new : NewFiles linksPath usersPath disk)
    (named : linksPath.isEmpty = false) (ready : Ready (⟨linksPath, usersPath, {}, {}⟩, disk)) :
    ofPaths linksPath usersPath disk = .ok ⟨linksPath, usersPath, {}, {}⟩ :=
  ready.opens (new.faithful named)

/-- The keeper of two files with its disk, and a keeper in memory. -/
abbrev Twins := (FileKeeper × Disk) × MemoryKeeper

/-- Both after an event. -/
def Twins.next (twins : Twins) (event : Event) : Twins :=
  ((event.perform twins.1).2, (event.performInMemory twins.2).2)

/-- Do both answer an event alike? -/
def Twins.Alike (twins : Twins) (event : Event) : Prop :=
  (event.perform twins.1).1 = (event.performInMemory twins.2).1

/-- The disk does not fail an event. -/
def Twins.Spared (twins : Twins) (event : Event) : Prop := ¬ DiskFault (event.perform twins.1).1

/-- The files are faithful, and both keepers hold the same. -/
structure Twins.Level (linksPath : String) (twins : Twins) : Prop where
  faithful : Faithful twins.1
  same : twins.2 = twins.1.1.inMemory
  path : twins.1.1.linksPath = linksPath

theorem Ready.of_sameTree {s : FileKeeper × Disk} (ready : Ready s) {links : LinkIndex}
    {users : UserIndex} {after : Disk} (tree : s.2.SameTree after) :
    Ready ({ s.1 with links := links, users := users }, after) where
  willing := tree.willing ready.willing
  links := tree.writable ready.links
  draft := tree.writable ready.draft
  users := tree.writable ready.users

theorem Twins.Level.next {linksPath : String} {twins : Twins} (level : twins.Level linksPath)
    {event : Event} (spared : twins.Spared event) :
    twins.Alike event ∧ (twins.next event).Level linksPath ∧
      (Ready twins.1 → Ready (twins.next event).1) := by
  obtain ⟨file, memory⟩ := twins
  obtain ⟨faithful, same, path⟩ := level
  dsimp only at same
  subst same
  unfold Twins.Alike Twins.next
  cases faithful.follows event with
  | failed answer kind => exact absurd ⟨_, answer, kind⟩ spared
  | answered answered same kept tree =>
      simp only [answered, same]
      exact ⟨trivial, ⟨kept, rfl, path⟩, fun ready => ready.of_sameTree tree⟩

/-- Reading the file of the links gives exactly what the index holds, unless the disk fails. -/
theorem Twins.Level.readLinks {linksPath : String} {twins : Twins} (level : twins.Level linksPath) :
    DiskFault (readLinks linksPath twins.1.2) ∨
      readLinks linksPath twins.1.2 = .ok twins.1.1.links.byKey := by
  rw [← level.path]
  exact level.faithful.readLinks

/-- **The keeper of two files answers as a keeper in memory**, across all restarts. The files are
missing at first and do not interfere. Every event that the disk does not fail is answered as in
memory, and the file of the links always reads as the index; a disk in order fails no event. -/
theorem follows_memory {linksPath usersPath : String} (new : NewFiles linksPath usersPath disk)
    (opened : ofPaths linksPath usersPath disk = .ok k) (events : List Event) :
    (Along Twins.next Twins.Spared ((k, disk), {}) events →
      Along Twins.next Twins.Alike ((k, disk), {}) events ∧
        Throughout Twins.next (fun twins => DiskFault (readLinks linksPath twins.1.2) ∨
          readLinks linksPath twins.1.2 = .ok twins.1.1.links.byKey) ((k, disk), {}) events) ∧
    (Ready (k, disk) → Along Twins.next Twins.Spared ((k, disk), {}) events ∧
      Throughout Twins.next (fun twins =>
        readLinks linksPath twins.1.2 = .ok twins.1.1.links.byKey) ((k, disk), {}) events) := by
  obtain ⟨rfl, faithful⟩ := new.opened opened
  have level : Twins.Level linksPath ((⟨linksPath, usersPath, {}, {}⟩, disk), {}) :=
    ⟨faithful, rfl, rfl⟩
  have stays (twins : Twins) (event : Event) (level : twins.Level linksPath)
      (spared : twins.Spared event) : (twins.next event).Level linksPath := (level.next spared).2.1
  constructor
  · intro spared
    refine ⟨spared.imp stays (fun twins event level spared => (level.next spared).1) level, ?_⟩
    exact (throughout_of_step stays level spared).imp fun twins level => level.readLinks
  · intro ready
    have fine (twins : Twins) (event : Event) (both : twins.Level linksPath ∧ Ready twins.1) :
        twins.Spared event := both.2.not_diskFault both.1.faithful event
    have stay (twins : Twins) (event : Event) (both : twins.Level linksPath ∧ Ready twins.1) :
        (twins.next event).Level linksPath ∧ Ready (twins.next event).1 := by
      obtain ⟨-, after, readyAfter⟩ := both.1.next (fine twins event both)
      exact ⟨after, readyAfter both.2⟩
    refine ⟨along_of_step stay fine ⟨level, ready⟩, ?_⟩
    refine (throughout_of_step (fun twins event both _ => stay twins event both) ⟨level, ready⟩
      (along_true _ events)).imp fun twins both => ?_
    rw [← both.1.path]
    exact both.2.readLinks both.1.faithful

/-- A link that is stored, deleted and read again, with a restart after each step. -/
def sampleEvents : List Event :=
  [.call (.save "1" "a" { shortUrl := "", originalUrl := "u", owner := some "ann" }), .restart,
    .call (.updateBatch [⟨"ann", ["a"]⟩]), .restart, .call .load]

/-- On an empty disk two files are new that stand beside each other. -/
theorem newFiles_sample : NewFiles "/links" "/users" {} ∧
    Ready (⟨"/links", "/users", {}, {}⟩, {}) := by
  have links : ({} : Disk).fileName "/links" = .ok "/links" := by decide +kernel
  have draft : ({} : Disk).fileName (draftPath "/links") = .ok "/links.tmp" := by decide +kernel
  have users : ({} : Disk).fileName "/users" = .ok "/users" := by decide +kernel
  have linksPlace := (Disk.fileName_ok_iff.mp links).1
  have draftPlace := (Disk.fileName_ok_iff.mp draft).1
  have usersPlace := (Disk.fileName_ok_iff.mp users).1
  have new : NewFiles "/links" "/users" {} :=
    { links := by rw [Disk.find_of_place linksPlace]; rfl
      users := by rw [Disk.find_of_place usersPlace]; rfl
      apart := by
        intro place beside placed placedBeside
        rw [linksPlace] at placed
        rw [usersPlace] at placedBeside
        cases placed
        cases placedBeside
        decide
      apartDraft := by
        intro place beside placed placedBeside
        rw [draftPlace] at placed
        rw [usersPlace] at placedBeside
        cases placed
        cases placedBeside
        decide
      honest := fun _ => nofun }
  exact ⟨new, fun _ => rfl, ⟨_, links⟩, ⟨_, draft⟩, ⟨_, users⟩⟩

theorem follows_memory_sampleEvents :
    NewFiles "/links" "/users" {} ∧
      ofPaths "/links" "/users" {} = .ok ⟨"/links", "/users", {}, {}⟩ ∧
      Along Twins.next Twins.Spared ((⟨"/links", "/users", {}, {}⟩, {}), {}) sampleEvents ∧
      Along Twins.next Twins.Alike ((⟨"/links", "/users", {}, {}⟩, {}), {}) sampleEvents := by
  obtain ⟨new, ready⟩ := newFiles_sample
  have opened := new.opens rfl ready
  obtain ⟨alike, spared⟩ := follows_memory new opened sampleEvents
  exact ⟨new, opened, (spared ready).1, (alike (spared ready).1).1⟩

end FileKeeper

end ShortLinks
