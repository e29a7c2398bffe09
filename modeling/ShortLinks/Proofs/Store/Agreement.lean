import ShortLinks.Proofs.Run
import ShortLinks.Proofs.Store.Write

/-!
The table in memory and the index of the keeper hold the same links.

* `settle_eq_filed` — a batch that finds the two in agreement leaves them so. The merge may let in
  an entry that the index skips, but the correction then takes it out again, and the link that the
  index stored in its place is either merged or named by a skipped entry.
* `agrees_throughout_run` — so the two agree after every step of a run without failures, over the
  keeper in memory and over the keeper of two files.

A file may hold several links to one address, and then the index knows only one of them as the
holder of the address. Nothing here assumes that addresses are unique.
-/

namespace ShortLinks

/-! ### One batch -/

namespace BatchCall

variable {call : BatchCall} {table : LinkMap} {index : LinkIndex} {key : String} {link : Link}

/-- A stored entry whose key and address are free in a table that has a link under every key of the
index is merged, or a skipped one names it. -/
theorem merge_or_named_of_stored (sound : index.Sound)
    (within : ∀ key : String, index.byKey[key]? ≠ none → table[key]? ≠ none)
    (mine : call.normal[key]? = some link) (notSkipped : key ∉ (call.skipped index).map (·.1))
    (free : table[key]? = none) (unled : ¬ LinkMap.Leads table link.originalUrl) :
    (call.merge table)[key]? = some link ∨ key ∈ Store.named (call.skipped index) := by
  obtain ⟨-, -, -, sole⟩ := stored_normal sound mine notSkipped
  rcases call.merge_covers table mine with standing | led
  · -- Nothing but the entry itself can stand under its key.
    obtain ⟨there, found⟩ := Option.ne_none_iff_exists'.mp standing
    rcases of_merge found with old | ⟨-, also, -⟩
    · rw [free] at old
      cases old
    · obtain rfl := Option.some.inj (mine.symm.trans also)
      exact .inl found
  · obtain ⟨other, twin, found, leads⟩ := led
    rcases of_merge found with old | ⟨freeOther, twinMine, -⟩
    · exact absurd ⟨other, twin, old, leads⟩ unled
    · by_cases requested : other ∈ (call.skipped index).map (·.1)
      · -- Another entry took the address and was skipped: for the stored one, as its key was free.
        obtain ⟨⟨_, holder⟩, skip, rfl⟩ := List.mem_map.mp requested
        have stored := call.holder_stored sound _ skip
        obtain ⟨_, alsoTwin, why⟩ := exists_of_skip sound skip
        obtain rfl := Option.some.inj (twinMine.symm.trans alsoTwin)
        rcases why with sameUrl | sameKey
        · obtain ⟨own, -⟩ := sole _ holder stored (sameUrl.trans leads)
          exact .inr (List.mem_map.mpr ⟨_, skip, own⟩)
        · dsimp only at sameKey stored freeOther
          rw [sameKey, filed_skipped sound requested] at stored
          exact absurd freeOther (within _ (stored ▸ Option.some_ne_none holder))
      · obtain ⟨-, -, presentTwin, -⟩ := stored_normal sound twinMine requested
        obtain ⟨rfl, rfl⟩ := sole other twin presentTwin leads
        exact .inl found

/-- **A fresh batch leaves table and index in agreement**, in whatever order its entries are
normalised and merged. -/
theorem settle_eq_filed (sound : index.Sound) (isFresh : call.FreshFor index.byKey) :
    call.settle index.byKey index = (call.filed index).index.byKey := by
  refine Std.ExtTreeMap.ext_getElem? fun {key} => Option.ext fun link => ⟨fun found => ?_, ?_⟩
  · rcases of_getElem?_settle sound found with stored | ⟨old, -⟩
    · exact stored
    · exact call.filed_kept sound old
  · intro stored
    have stays : ¬ Store.Withdrawn call.normal (call.skipped index) key link := by
      intro withdrawn
      rw [filed_skipped sound withdrawn.requested.1] at stored
      exact isFresh.not_withdrawn stored _ withdrawn
    refine (getElem?_settle sound call index.byKey key link).mpr ⟨?_, stays⟩
    by_cases isNamed : key ∈ Store.named (call.skipped index)
    · rwa [if_pos isNamed]
    · rw [if_neg isNamed]
      rcases of_filed sound stored with old | ⟨-, mine, notSkipped⟩
      · exact call.merge_kept old
      · obtain ⟨free, unled, -⟩ := stored_normal sound mine notSkipped
        exact (merge_or_named_of_stored sound (fun _ stands => stands) mine notSkipped free
          unled).resolve_right isNamed

end BatchCall

/-! ### Every write -/

/-- Table and index hold the same links, and the index is sound. -/
structure Books.Agreed (books : Books) : Prop where
  sound : books.2.Sound
  same : books.1 = books.2.byKey

namespace Write

variable {σ : Type} [Keeper σ]

/-- A write that succeeds and, if it is a batch, is fresh. -/
def Regular (state : Store × σ) (write : Write) : Prop :=
  write.Succeeds state ∧
    match write with
    | .batch call => call.FreshFor state.1.links
    | _ => True

theorem effect_agreed {books : Books} (agreed : books.Agreed) {write : Write}
    (isFresh : ∀ call, write = .batch call → call.FreshFor books.1) :
    (write.effect books).Agreed where
  sound := write.effect_sound agreed.sound
  same := by
    obtain ⟨table, index⟩ := books
    obtain ⟨sound, same⟩ := agreed
    dsimp only at same sound isFresh
    subst same
    cases write with
    | link fresh key record => exact (sound.byKey_insert fresh key record).symm
    | user => rfl
    | batch call => exact BatchCall.settle_eq_filed sound (isFresh call rfl)
    | deletion requests => rfl

variable [IndexedKeeper σ]

theorem next_agreed (state : Store × σ) (write : Write) (agreed : (books state).Agreed)
    (regular : write.Regular state) : (books (write.next state)).Agreed := by
  obtain ⟨ok, isFresh⟩ := regular
  rw [books_next_of_ok ok]
  refine effect_agreed agreed fun call batch => ?_
  subst batch
  exact isFresh

end Write

/-! ### Opening -/

namespace Store

/-- Table and index hold the same links. -/
def Agrees {σ : Type} [Keeper σ] [IndexedKeeper σ] (state : Store × σ) : Prop :=
  state.1.links = (IndexedKeeper.index state.2).byKey

/-- The store over two files whose links are indexed in this order. -/
def ofFiles (keeper : FileKeeper) (disk : Disk) (order : List (String × Link)) :
    Store × (FileKeeper × Disk) :=
  let (store, keeper, disk) := ofKeeper (keeper, disk)
  (store, { keeper with links := .ofList order }, disk)

/-- Opening over two files puts the links of the file into the table and into the index. -/
theorem exists_of_ofKeeper {keeper : FileKeeper} {disk : Disk} {links : LinkMap}
    (read : FileKeeper.readLinks keeper.linksPath disk = .ok links) :
    ∃ users index, ofKeeper (keeper, disk) = (⟨links, users⟩,
      { keeper with links := .ofMap links, users := index }, disk) := by
  have loaded : Keeper.load (keeper, disk)
      = (.ok links, { keeper with links := .ofMap links }, disk) := by
    change FileKeeper.load (keeper, disk) = _
    simp only [FileKeeper.load, read]
  have loadedUsers (k : FileKeeper) : ∃ answer index,
      Keeper.loadUsers (k, disk) = (answer, { k with users := index }, disk) := by
    change ∃ answer index, FileKeeper.loadUsers (k, disk) = _
    unfold FileKeeper.loadUsers
    dsimp only
    cases FileKeeper.readUsers k.usersPath disk with
    | ok users => exact ⟨.ok users, ⟨users⟩, rfl⟩
    | error fault => exact ⟨.error fault, k.users, rfl⟩
  obtain ⟨answer, index, loadedUsers⟩ := loadedUsers { keeper with links := .ofMap links }
  simp only [ofKeeper, loaded, loadedUsers]
  exact ⟨_, index, rfl⟩

/-- Opening indexes the links by ascending keys. -/
theorem ofFiles_eq_ofKeeper {keeper : FileKeeper} {disk : Disk} {links : LinkMap}
    (read : FileKeeper.readLinks keeper.linksPath disk = .ok links) :
    ofFiles keeper disk links.toList = ofKeeper (keeper, disk) := by
  obtain ⟨users, index, opened⟩ := exists_of_ofKeeper read
  simp only [ofFiles, opened]
  rfl

theorem agreed_ofMemory : (Write.books (ofKeeper ({} : MemoryKeeper))).Agreed where
  sound := LinkIndex.sound_empty
  same := rfl

theorem agreed_ofFiles {keeper : FileKeeper} {disk : Disk} {links : LinkMap}
    (read : FileKeeper.readLinks keeper.linksPath disk = .ok links) {order : List (String × Link)}
    (perm : order.Perm links.toList) : (Write.books (ofFiles keeper disk order)).Agreed := by
  obtain ⟨users, index, opened⟩ := exists_of_ofKeeper read
  have books : Write.books (ofFiles keeper disk order) = (links, .ofList order) := by
    simp only [ofFiles, opened]
    rfl
  rw [books]
  exact ⟨LinkIndex.sound_ofList (FileKeeper.readLinks_keyed read) perm,
    (LinkIndex.byKey_ofList perm).symm⟩

/-- **Table and index agree after every step** of a run without failures, however the entries of
its batches come up: over the empty keeper in memory, and over the keeper of two files whose links
can be read. -/
theorem agrees_throughout_run :
    (∀ writes : List Write,
      Along Write.next Write.Regular (ofKeeper ({} : MemoryKeeper)) writes →
        Throughout Write.next Agrees (ofKeeper ({} : MemoryKeeper)) writes) ∧
    ∀ (keeper : FileKeeper) (disk : Disk) (links : LinkMap) (order : List (String × Link)),
      FileKeeper.readLinks keeper.linksPath disk = .ok links → order.Perm links.toList →
        ∀ writes : List Write,
          Along Write.next Write.Regular (ofFiles keeper disk order) writes →
            Throughout Write.next Agrees (ofFiles keeper disk order) writes := by
  constructor
  · intro writes along
    exact (throughout_of_step Write.next_agreed agreed_ofMemory along).imp
      fun _ agreed => agreed.same
  · intro keeper disk links order read perm writes along
    exact (throughout_of_step Write.next_agreed (agreed_ofFiles read perm) along).imp
      fun _ agreed => agreed.same

/-- A batch that asks for three addresses, of which two are the same. -/
def sampleBatch : BatchCall :=
  .tagged "" [("p", ⟨"", "", "a.io", none, false⟩), ("q", ⟨"", "", "b.io", none, false⟩),
    ("r", ⟨"", "", "b.io", none, false⟩)]

/-- A link to the first address, the batch, and a request to delete the link. -/
def sampleWrites : List Write :=
  [.link "1" "x" ⟨"", "", "a.io", some "ann", false⟩, .batch sampleBatch,
    .deletion [⟨"ann", ["x"]⟩]]

/-- Two links to one address under their keys, the later one first. -/
def sampleOrder : List (String × Link) :=
  [("t", ⟨"8", "t", "c.io", none, false⟩),
    ("s", ⟨"7", "s", "c.io", none, false⟩)]

/-- A disk with a file of the two links, each as the array of its fields. -/
def sampleDisk : Disk where
  entries := .ofList [("/links", Entry.file (.text
    "[\"7\",\"s\",\"c.io\"]\n[\"8\",\"t\",\"c.io\"]\n"))]

theorem agrees_throughout_sampleWrites :
    Throughout Write.next Agrees (ofKeeper ({} : MemoryKeeper)) sampleWrites ∧
      Throughout Write.next Agrees (ofFiles ⟨"/links", "/users", {}, {}⟩ sampleDisk sampleOrder)
        [.batch sampleBatch] := by
  constructor
  · refine agrees_throughout_run.1 sampleWrites ?_
    refine ⟨⟨?_, trivial⟩, ⟨?_, ?_⟩, ⟨?_, trivial⟩, trivial⟩
    · decide +kernel
    · decide +kernel
    · change BatchCall.FreshFor _ _
      decide +kernel
    · decide +kernel
  · have read : (FileKeeper.readLinks "/links" sampleDisk).toOption.map (fun links => links.toList)
        = some sampleOrder.reverse := by decide +kernel
    cases answer : FileKeeper.readLinks "/links" sampleDisk with
    | error fault =>
        rw [answer] at read
        cases read
    | ok links =>
        rw [answer] at read
        have perm : sampleOrder.Perm links.toList := by
          rw [show links.toList = sampleOrder.reverse from Option.some.inj read]
          exact (List.reverse_perm sampleOrder).symm
        refine agrees_throughout_run.2 _ sampleDisk links sampleOrder answer perm _ ?_
        refine ⟨⟨?_, ?_⟩, trivial⟩
        · decide +kernel
        · change BatchCall.FreshFor _ _
          decide +kernel

end Store

end ShortLinks
