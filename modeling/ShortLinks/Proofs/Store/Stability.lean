import ShortLinks.Proofs.Database.Rows
import ShortLinks.Proofs.Store.Authority

/-!
What a key is held to.

* `Link.facts`, `LinkMap.Keeps` — identity, address and owner of a link, and a table that keeps
  them under every key.
* `Write.keeps_effect` — over an index that agrees with the table, every write keeps the facts.
* `Write.TakesOver` — over a database a write takes a key over when the row in its way, or the row
  it stores, comes in under a key where the table has something else. The database finds a row in
  the way by its text, and the table by its key.
* `facts_last` — so whatever is once read is read ever after, deleted or not, in a run without
  failures over the keeper in memory and over the keeper of two files; over a database exactly when
  no write takes a key over.
-/

namespace ShortLinks

open LinkIndex (entryLink)

/-- What a key is held to: identity, address and owner. -/
def Link.facts (l : Link) : String × String × Option String := (l.id, l.originalUrl, l.owner)

namespace LinkMap

/-- A table after a write shows the same facts under every key. -/
def Keeps (table after : LinkMap) : Prop :=
  ∀ facts key, table.Shows (·.facts = facts) key → after.Shows (·.facts = facts) key

variable {table : LinkMap}

theorem keeps_of_within {after : LinkMap} (within : Within table after) : Keeps table after :=
  fun _ key ⟨link, found, facts⟩ => ⟨link, within key link found, facts⟩

theorem keeps_tombstone (requests : List DeletionRequest) :
    Keeps table (tombstone table requests).1 :=
  fun _ _ shows => shows.tombstone (fun _ facts => facts) requests

/-- A link that comes in under its key keeps the facts unless others stand there. -/
theorem keeps_insert_iff {key : String} {incoming : Link} :
    Keeps table (table.insert key incoming) ↔
      ¬ ∃ old, table[key]? = some old ∧ old.facts ≠ incoming.facts := by
  constructor
  · rintro kept ⟨old, found, other⟩
    obtain ⟨now, stands, same⟩ := kept old.facts key ⟨old, found, rfl⟩
    obtain rfl : incoming = now := by simpa using stands
    exact other same.symm
  · rintro alike facts other ⟨old, found, rfl⟩
    by_cases same : key = other
    · subst same
      refine ⟨incoming, by simp, ?_⟩
      by_contra unlike
      exact alike ⟨old, found, Ne.symm unlike⟩
    · exact ⟨old, by simpa [Std.ExtTreeMap.getElem?_insert, same] using found, rfl⟩

end LinkMap

open LinkMap (Keeps)

/-! ### Over an index -/

namespace Write

/-- **Over an index that agrees with the table**, every write keeps the facts. -/
theorem keeps_effect {books : Books} (agreed : books.Agreed) {write : Write}
    (isFresh : ∀ call, write = .batch call → call.FreshFor books.1) :
    Keeps books.1 (write.effect books).1 := by
  have after := (effect_agreed agreed isFresh).same
  obtain ⟨table, index⟩ := books
  obtain ⟨sound, same⟩ := agreed
  dsimp only at same sound after ⊢
  cases write with
  | link fresh key record =>
      rw [after, same]
      refine LinkMap.keeps_of_within fun key' link found => ?_
      simp only [effect]
      have step := sound.insertion (fun _ => fresh) (key, record)
      generalize index.insert fresh key record = answer at step ⊢
      cases step with
      | refused => exact found
      | stored free => exact (LinkIndex.byKey_put_eq_some_iff free).mpr (.inl found)
  | user => exact LinkMap.keeps_of_within fun _ _ found => found
  | batch call =>
      rw [after, same]
      exact LinkMap.keeps_of_within fun _ _ found => call.filed_kept sound found
  | deletion requests => exact LinkMap.keeps_tombstone requests

end Write

namespace Store

section Lasting

variable {σ : Type} {state after : Store × σ}

/-- A link with these facts is read by this short link. -/
def ReadsFacts (shortUrl : String) (facts : String × String × Option String)
    (state : Store × σ) : Prop :=
  state.1.Reads (·.facts = facts) shortUrl

theorem forall_readsFacts_iff (keyed : LinkMap.Keyed state.1.links) :
    (∀ shortUrl facts, ReadsFacts shortUrl facts state → ReadsFacts shortUrl facts after) ↔
      Keeps state.1.links after.1.links := by
  rw [forall_comm]
  exact forall_congr' fun facts => forall_reads_iff keyed

variable [Keeper σ] {writes : List Write}

/-- Whatever is read is read ever after exactly when every write leaves it to be read. -/
theorem lasting_facts_iff :
    (∀ shortUrl facts, Lasting Write.next (ReadsFacts shortUrl facts) state writes) ↔
      Along Write.next (fun state write => ∀ shortUrl facts,
        ReadsFacts shortUrl facts state → ReadsFacts shortUrl facts (write.next state))
        state writes := by
  let family (pair : String × String × String × Option String) : Store × σ → Prop :=
    ReadsFacts pair.1 pair.2
  have pairs : (∀ pair, Lasting Write.next (family pair) state writes) ↔ _ := lasting_iff_along
  simpa only [Prod.forall] using pairs

end Lasting

/-- In a regular run over an index that agrees with the table, whatever is read is read ever
after. -/
theorem facts_last_of_agreed {σ : Type} [Keeper σ] [IndexedKeeper σ] {state : Store × σ}
    (agreed : (Write.books state).Agreed) {writes : List Write}
    (along : Along Write.next Write.Regular state writes) (shortUrl : String)
    (facts : String × String × Option String) :
    Lasting Write.next (ReadsFacts shortUrl facts) state writes := by
  refine lasting_facts_iff.mpr (along.imp Write.next_agreed (fun state write agreed regular => ?_)
    agreed) shortUrl facts
  have same : state.1.links = (IndexedKeeper.index state.2).byKey := agreed.same
  have keyed : LinkMap.Keyed state.1.links := by
    rw [same]
    exact agreed.sound.keyed
  rw [forall_readsFacts_iff keyed]
  obtain ⟨ok, isFresh⟩ := regular
  have kept : Keeps state.1.links (write.effect (Write.books state)).1 :=
    Write.keeps_effect agreed fun call batch => by
      subst batch
      exact isFresh
  rwa [← Write.books_next_of_ok ok] at kept

end Store

/-! ### Over a database -/

namespace DatabaseKeeper

variable {k after : DatabaseKeeper} {fresh : String → String} {batch : LinkMap}

/-- The rows of the links. -/
def rows (k : DatabaseKeeper) : List LinkRow := k.database.links.getD []

/-- The connection is open and the table of links is there. -/
structure Serving (k : DatabaseKeeper) : Prop where
  isOpen : k.isOpen = true
  links : k.database.links ≠ none

theorem Serving.holds (serving : k.Serving) : k.Holds k.rows := by
  obtain ⟨stored, present⟩ := Option.ne_none_iff_exists'.mp serving.links
  exact ⟨serving.isOpen, by rw [DatabaseKeeper.rows, present, Option.getD_some]⟩

theorem Holds.serving {rows : List LinkRow} (holds : k.Holds rows) : k.Serving :=
  ⟨holds.isOpen, by rw [holds.links]; exact Option.some_ne_none _⟩

theorem Holds.rows_eq {rows : List LinkRow} (holds : k.Holds rows) : k.rows = rows := by
  rw [DatabaseKeeper.rows, holds.links, Option.getD_some]

/-- The index by which a batch is judged: that of the rows in its way. -/
def indexFor (k : DatabaseKeeper) (fresh : String → String) (batch : LinkMap) : LinkIndex :=
  .ofMap (linkMapOf (rowsInTheWay k.reads k.rows fresh batch))

theorem indexFor_sound (k : DatabaseKeeper) (fresh : String → String) (batch : LinkMap) :
    (k.indexFor fresh batch).Sound := by
  refine LinkIndex.sound_ofList (fun key link found => ?_) (.refl _)
  obtain ⟨row, -, rfl, rfl⟩ := of_linkMapOf found
  rfl

/-- What the index that judges a batch knows is a row. -/
theorem of_indexFor {key : String} {link : Link}
    (found : (k.indexFor fresh batch).byKey[key]? = some link) :
    ∃ row ∈ k.rows, row.toLink = link := by
  rw [indexFor, LinkIndex.ofMap, LinkIndex.byKey_ofList (.refl _)] at found
  obtain ⟨row, mem, -, same⟩ := of_linkMapOf found
  exact ⟨row, (mem_rowsInTheWay.mp mem).1, same⟩

/-- What the index of a batch holds bears the identity of a row. -/
theorem id_of_indexFor {key : String} {link : Link}
    (found : (k.indexFor fresh batch).byKey[key]? = some link) :
    ∃ row ∈ k.rows, row.id = link.id := by
  obtain ⟨row, mem, rfl⟩ := of_indexFor found
  exact ⟨row, mem, rfl⟩

/-- A batch that succeeds is reported as its index reports it, and what the index lets in is added
to the rows. -/
theorem saveBatch_ok (serving : k.Serving) {report : BatchReport}
    (ok : saveBatch fresh batch k = (.ok report, after)) :
    report = ((k.indexFor fresh batch).insertBatch fresh batch).report ∧
      ∃ rows, Database.addLinks k.rows
          (((k.indexFor fresh batch).insertBatch fresh batch).created.map Link.toRow) = .ok rows ∧
        after.Holds rows := by
  cases blank : batch.isEmpty with
  | true =>
      rw [saveBatch, if_pos blank] at ok
      obtain ⟨answer, rfl⟩ := Prod.mk.inj ok
      obtain rfl := Except.ok.inj answer
      rw [LinkIndex.insertBatch, Std.ExtTreeMap.isEmpty_iff.mp blank]
      exact ⟨rfl, k.rows, rfl, serving.holds⟩
  | false =>
      rw [saveBatch_eq serving.holds fresh blank] at ok
      dsimp only at ok
      split at ok
      · next rows added =>
          obtain ⟨answer, rfl⟩ := Prod.mk.inj ok
          exact ⟨(Except.ok.inj answer).symm, rows, added, serving.isOpen, rfl⟩
      · cases (Prod.mk.inj ok).1

theorem saveUser_holds {rows : List LinkRow} (holds : k.Holds rows) (fresh email : String)
    (user : User) : (saveUser fresh email user k).2.Holds rows := by
  unfold saveUser
  dsimp only
  cases k.userRows with
  | error failure => exact holds
  | ok stored =>
      dsimp only
      cases Database.addUser stored ((user.fillEmail email).ensureId fresh) with
      | ok more => exact ⟨holds.isOpen, holds.links⟩
      | error clash =>
          dsimp only
          split
          · split <;> exact holds
          · exact holds

theorem updateBatch_serving (serving : k.Serving) (requests : List DeletionRequest) :
    (updateBatch requests k).2.Serving := by
  unfold updateBatch
  dsimp only
  split
  · exact serving
  · rw [serving.holds.linkRows]
    exact ⟨serving.isOpen, Option.some_ne_none _⟩

end DatabaseKeeper

/-! ### Batches -/

namespace BatchCall

variable {call : BatchCall} {table : LinkMap} {index : LinkIndex}

/-- A batch with new identities withdraws no link that it names. -/
theorem FreshFor.holder_not_withdrawn (sound : index.Sound) (isFresh : call.FreshFor index.byKey)
    {skip : String × Link} (mem : skip ∈ call.skipped index) :
    ¬ Store.Withdrawn call.normal (call.skipped index) skip.2.key skip.2 := by
  intro withdrawn
  rcases of_filed sound (call.holder_stored sound skip mem) with old | ⟨-, -, notSkipped⟩
  · exact isFresh.not_withdrawn old _ withdrawn
  · exact notSkipped withdrawn.requested.1

/-- A batch with new identities keeps the facts unless a skipped entry names a link under whose key
others stand. -/
theorem keeps_settle_iff (sound : index.Sound) (newInTable : call.FreshFor table)
    (newInIndex : call.FreshFor index.byKey) :
    Keeps table (call.settle table index) ↔
      ¬ ∃ skip ∈ call.skipped index, ∃ old,
        table[skip.2.key]? = some old ∧ old.facts ≠ skip.2.facts := by
  have named {skip : String × Link} (mem : skip ∈ call.skipped index) :
      (call.settle table index)[skip.2.key]? = some skip.2 :=
    (getElem?_settle_holder sound mem).mpr (newInIndex.holder_not_withdrawn sound mem)
  constructor
  · rintro kept ⟨skip, mem, old, found, other⟩
    obtain ⟨now, stands, same⟩ := kept old.facts skip.2.key ⟨old, found, rfl⟩
    obtain rfl := Option.some.inj ((named mem).symm.trans stands)
    exact other same.symm
  · rintro alike facts key ⟨old, found, rfl⟩
    by_cases isNamed : key ∈ Store.named (call.skipped index)
    · obtain ⟨skip, mem, rfl⟩ := List.mem_map.mp isNamed
      refine ⟨skip.2, named mem, ?_⟩
      by_contra unlike
      exact alike ⟨skip, mem, old, found, Ne.symm unlike⟩
    · refine ⟨old, (getElem?_settle sound call table key old).mpr ⟨?_, ?_⟩, rfl⟩
      · rw [if_neg isNamed]
        exact call.merge_kept found
      · exact newInTable.not_withdrawn found _

end BatchCall

/-! ### Writes over a database -/

namespace Write

/-- Does a write, if it succeeds, put something else under a key of the table? A link does by the
row in its way, or if there is none by its own, and a batch by a link that a skipped entry
names. -/
def TakesOver (state : Store × DatabaseKeeper) : Write → Prop
  | .link fresh key record =>
      let own := entryLink (fun _ => fresh) (key, record)
      let incoming := (Database.conflicting? state.2.rows own.originalUrl own.shortUrl).elim own
        LinkRow.toLink
      ∃ old, state.1.links[incoming.key]? = some old ∧ old.facts ≠ incoming.facts
  | .batch call =>
      ∃ skip ∈ call.skipped (state.2.indexFor call.fresh call.normal), ∃ old,
        state.1.links[skip.2.key]? = some old ∧ old.facts ≠ skip.2.facts
  | _ => False

/-- A write that succeeds and, if it is a batch, draws identities that neither the table nor a row
knows. -/
def DrawsNew (state : Store × DatabaseKeeper) (write : Write) : Prop :=
  write.Regular state ∧
    match write with
    | .batch call => ∀ entry ∈ call.batch.toList, ∀ row ∈ state.2.rows, call.fresh entry.1 ≠ row.id
    | _ => True

/-- The database serves, and the table is keyed. -/
structure Kept (state : Store × DatabaseKeeper) : Prop where
  serving : state.2.Serving
  keyed : LinkMap.Keyed state.1.links

variable {state : Store × DatabaseKeeper}

theorem link_keeps_iff (kept : Kept state) {fresh key : String} {record : Link}
    (ok : (Write.link fresh key record).Succeeds state) :
    (Keeps state.1.links ((Write.link fresh key record).next state).1.links ↔
        ¬ (Write.link fresh key record).TakesOver state) ∧
      Kept ((Write.link fresh key record).next state) := by
  have saved : Keeper.save fresh key record state.2 = _ :=
    DatabaseKeeper.save_eq kept.serving.holds (fun _ => fresh) (key, record) rfl
  simp only [Succeeds, next, outcome, Store.Outcome.status, Store.insertLink, saved, TakesOver]
    at ok ⊢
  generalize entryLink (fun _ => fresh) (key, record) = own at ok ⊢
  cases way : Database.conflicting? state.2.rows own.originalUrl own.shortUrl with
  | some row => exact ⟨LinkMap.keeps_insert_iff, kept.serving, kept.keyed.insert _⟩
  | none =>
      simp only [way] at ok ⊢
      by_cases borne : state.2.rows.any (·.id = own.id) = true
      · rw [if_pos borne] at ok
        cases ok
      · rw [if_neg borne]
        exact ⟨LinkMap.keeps_insert_iff, ⟨kept.serving.isOpen, Option.some_ne_none _⟩,
          kept.keyed.insert _⟩

/-- A batch that succeeds settles the table by the index of the rows in its way, and what that index
lets in is added to the rows. -/
theorem batch_next_of_ok (serving : state.2.Serving) {call : BatchCall}
    (ok : (Write.batch call).Succeeds state) :
    ((Write.batch call).next state).1.links
        = call.settle state.1.links (state.2.indexFor call.fresh call.normal) ∧
      ∃ rows, Database.addLinks state.2.rows
          ((call.filed (state.2.indexFor call.fresh call.normal)).created.map Link.toRow)
            = .ok rows ∧
        ((Write.batch call).next state).2.Holds rows := by
  simp only [Succeeds, next, outcome, Store.Outcome.status, Store.insertInOrder] at ok ⊢
  by_cases blank : call.batch.isEmpty = true
  · obtain ⟨-, -, same⟩ :=
      call.filed_of_isEmpty blank state.1.links (state.2.indexFor call.fresh call.normal)
    have nothing : (call.filed (state.2.indexFor call.fresh call.normal)).created = [] := by
      rw [BatchCall.filed, (call.normal_of_isEmpty blank).1]
      rfl
    rw [if_pos blank, nothing]
    exact ⟨same.symm, state.2.rows, rfl, serving.holds⟩
  · rw [if_neg blank] at ok ⊢
    unfold Store.insertNormalised at ok ⊢
    cases saved : Keeper.saveBatch call.fresh call.normal state.2 with
    | mk answer after =>
        rw [saved] at ok
        cases answer with
        | error fault => cases ok
        | ok report =>
            obtain ⟨rfl, added⟩ := DatabaseKeeper.saveBatch_ok serving saved
            exact ⟨rfl, added⟩

theorem batch_keeps_iff (kept : Kept state) {call : BatchCall}
    (ok : (Write.batch call).Succeeds state) (newInTable : call.FreshFor state.1.links)
    (newInRows : ∀ entry ∈ call.batch.toList, ∀ row ∈ state.2.rows,
      call.fresh entry.1 ≠ row.id) :
    (Keeps state.1.links ((Write.batch call).next state).1.links ↔
        ¬ (Write.batch call).TakesOver state) ∧ Kept ((Write.batch call).next state) := by
  have sound := state.2.indexFor_sound call.fresh call.normal
  have newInIndex : call.FreshFor (state.2.indexFor call.fresh call.normal).byKey := by
    refine fun entry mem => ⟨(newInTable entry mem).1, fun old among => ?_⟩
    obtain ⟨row, stored, same⟩ := DatabaseKeeper.id_of_indexFor
      (Std.ExtTreeMap.mem_toList_iff_getElem?_eq_some.mp among)
    rw [← same]
    exact newInRows entry mem row stored
  obtain ⟨settled, rows, -, holds⟩ := batch_next_of_ok kept.serving ok
  rw [settled]
  exact ⟨BatchCall.keeps_settle_iff sound newInTable newInIndex, holds.serving,
    settled ▸ call.settle_keyed sound kept.keyed⟩

/-- Users do not touch the links. -/
theorem user_next (state : Store × DatabaseKeeper) (fresh email : String) (record : User) :
    ((Write.user fresh email record).next state).1.links = state.1.links ∧
      ((Write.user fresh email record).next state).2
        = (DatabaseKeeper.saveUser fresh email record state.2).2 := by
  simp only [next, outcome, Store.Outcome.status, Store.insertUser, Keeper.saveUser]
  cases DatabaseKeeper.saveUser fresh email record state.2 with
  | mk answer after => cases answer <;> exact ⟨rfl, rfl⟩

theorem user_keeps (kept : Kept state) (fresh email : String) (record : User) :
    Keeps state.1.links ((Write.user fresh email record).next state).1.links ∧
      Kept ((Write.user fresh email record).next state) := by
  obtain ⟨table, keeper⟩ := user_next state fresh email record
  have holds := DatabaseKeeper.saveUser_holds kept.serving.holds fresh email record
  exact ⟨fun _ _ shows => table ▸ shows, keeper ▸ holds.serving, table ▸ kept.keyed⟩

theorem deletion_keeps (kept : Kept state) (requests : List DeletionRequest) :
    Keeps state.1.links ((Write.deletion requests).next state).1.links ∧
      Kept ((Write.deletion requests).next state) := by
  have serving := DatabaseKeeper.updateBatch_serving kept.serving requests
  simp only [next, outcome, Store.Outcome.status, Store.deleteLinks, Keeper.updateBatch]
  by_cases noKeys : requests.all (·.keys.isEmpty) = true
  · rw [if_pos noKeys]
    exact ⟨fun _ _ shows => shows, kept⟩
  · rw [if_neg noKeys]
    cases updated : DatabaseKeeper.updateBatch requests state.2 with
    | mk answer after =>
        rw [updated] at serving
        cases answer with
        | ok => exact ⟨LinkMap.keeps_tombstone requests, serving, kept.keyed.tombstone requests⟩
        | error fault => exact ⟨fun _ _ shows => shows, serving, kept.keyed⟩

/-- **One write over a database** keeps the facts exactly when it takes no key over. -/
theorem keeps_next_iff (kept : Kept state) {write : Write} (regular : write.DrawsNew state) :
    (Keeps state.1.links (write.next state).1.links ↔ ¬ write.TakesOver state) ∧
      Kept (write.next state) := by
  obtain ⟨⟨ok, isFresh⟩, isNew⟩ := regular
  cases write with
  | link fresh key record => exact link_keeps_iff kept ok
  | user fresh email record =>
      exact (user_keeps kept fresh email record).imp (iff_of_true · id) id
  | batch call => exact batch_keeps_iff kept ok isFresh isNew
  | deletion requests => exact (deletion_keeps kept requests).imp (iff_of_true · id) id

end Write

/-! ### Runs -/

namespace Store

/-- Whatever is once read in a run is read ever after, deleted or not. -/
def FactsLast {σ : Type} [Keeper σ] (state : Store × σ) (writes : List Write) : Prop :=
  ∀ shortUrl facts, Lasting Write.next (ReadsFacts shortUrl facts) state writes

/-- The store over an empty database. -/
def ofDatabase (backend : String) (reads : ReadOrder) : Store × DatabaseKeeper :=
  ofKeeper { backend := backend, reads := reads }

theorem kept_ofDatabase (backend : String) (reads : ReadOrder) :
    Write.Kept (ofDatabase backend reads) where
  serving := ⟨rfl, Option.some_ne_none _⟩
  keyed := LinkMap.keyed_empty

/-- **Keys are not taken over** in a run without failures, over the empty keeper in memory and over
the keeper of two files whose links can be read. Over an empty database they are not exactly when
no write takes one over. -/
theorem facts_last (writes : List Write) :
    (Along Write.next Write.Regular (ofKeeper ({} : MemoryKeeper)) writes →
      FactsLast (ofKeeper ({} : MemoryKeeper)) writes) ∧
    (∀ (keeper : FileKeeper) (disk : Disk) (links : LinkMap) (order : List (String × Link)),
      FileKeeper.readLinks keeper.linksPath disk = .ok links → order.Perm links.toList →
        Along Write.next Write.Regular (ofFiles keeper disk order) writes →
          FactsLast (ofFiles keeper disk order) writes) ∧
    ∀ (backend : String) (reads : ReadOrder),
      Along Write.next Write.DrawsNew (ofDatabase backend reads) writes →
        (FactsLast (ofDatabase backend reads) writes ↔
          Along Write.next (fun state write => ¬ write.TakesOver state)
            (ofDatabase backend reads) writes) := by
  refine ⟨facts_last_of_agreed agreed_ofMemory,
    fun keeper disk links order read perm => facts_last_of_agreed (agreed_ofFiles read perm),
    fun backend reads along => lasting_facts_iff.trans ?_⟩
  have stands_iff (state : Store × DatabaseKeeper) (write : Write) (kept : Write.Kept state)
      (regular : write.DrawsNew state) :
      (∀ shortUrl facts, ReadsFacts shortUrl facts state →
        ReadsFacts shortUrl facts (write.next state)) ↔ ¬ write.TakesOver state :=
    (forall_readsFacts_iff kept.keyed).trans (Write.keeps_next_iff kept regular).1
  have stays (state : Store × DatabaseKeeper) (write : Write) (kept : Write.Kept state)
      (regular : write.DrawsNew state) (_ : ¬ write.TakesOver state) :
      Write.Kept (write.next state) := (Write.keeps_next_iff kept regular).2
  exact along_congr_of_along stands_iff stays (kept_ofDatabase backend reads) along

theorem facts_last_sampleWrites :
    FactsLast (ofKeeper ({} : MemoryKeeper)) sampleWrites ∧
      FactsLast (ofFiles ⟨"/links", "/users", {}, {}⟩ {} []) [.batch sampleBatch] ∧
      (FactsLast (ofDatabase "sqlite" .indexed) sampleWrites ↔
        Along Write.next (fun state write => ¬ write.TakesOver state) (ofDatabase "sqlite" .indexed)
          sampleWrites) := by
  refine ⟨(facts_last sampleWrites).1 ?_, ?_, (facts_last sampleWrites).2.2 "sqlite" .indexed ?_⟩
  · refine ⟨⟨?_, trivial⟩, ⟨?_, ?_⟩, ⟨?_, trivial⟩, trivial⟩
    · decide +kernel
    · decide +kernel
    · change BatchCall.FreshFor _ _
      decide +kernel
    · decide +kernel
  · have read : FileKeeper.readLinks "/links" {} = .ok ∅ := by decide +kernel
    refine (facts_last [.batch sampleBatch]).2.1 _ {} ∅ [] read (by decide +kernel)
      ⟨⟨?_, ?_⟩, trivial⟩
    · decide +kernel
    · change BatchCall.FreshFor _ _
      decide +kernel
  · refine ⟨⟨⟨?_, trivial⟩, trivial⟩, ⟨⟨?_, ?_⟩, ?_⟩, ⟨⟨?_, trivial⟩, trivial⟩, trivial⟩
    · decide +kernel
    · decide +kernel
    · change BatchCall.FreshFor _ _
      decide +kernel
    · change ∀ entry ∈ sampleBatch.batch.toList, ∀ row ∈ DatabaseKeeper.rows _,
        sampleBatch.fresh entry.1 ≠ row.id
      decide +kernel
    · decide +kernel

/-- Two links with one key, of which the second is written as a full address. -/
def twoTexts : List Write :=
  [.link "1" "abc" ⟨"", "", "u1", none, false⟩,
    .link "2" "x" ⟨"", "http://h.io/abc", "u2", none, false⟩]

/-- The key of the first is read as the first, and then as the second. -/
theorem twoTexts_takesOver :
    Along Write.next Write.DrawsNew (ofDatabase "sqlite" .indexed) twoTexts ∧
      ((twoTexts.take 1).foldl Write.next (ofDatabase "sqlite" .indexed)).1.getLink "abc"
        = .ok ⟨"1", "abc", "u1", none, false⟩ ∧
      (twoTexts.foldl Write.next (ofDatabase "sqlite" .indexed)).1.getLink "abc"
        = .ok ⟨"2", "http://h.io/abc", "u2", none, false⟩ ∧
      ¬ FactsLast (ofDatabase "sqlite" .indexed) twoTexts := by
  have before : ((twoTexts.take 1).foldl Write.next (ofDatabase "sqlite" .indexed)).1.getLink "abc"
      = .ok ⟨"1", "abc", "u1", none, false⟩ := getLink_eq_ok_iff.mpr (by decide +kernel)
  have after : (twoTexts.foldl Write.next (ofDatabase "sqlite" .indexed)).1.getLink "abc"
      = .ok ⟨"2", "http://h.io/abc", "u2", none, false⟩ :=
    getLink_eq_ok_iff.mpr (by decide +kernel)
  refine ⟨⟨⟨⟨by decide +kernel, trivial⟩, trivial⟩, ⟨⟨by decide +kernel, trivial⟩, trivial⟩,
    trivial⟩, before, after, fun last => ?_⟩
  have later := ((last "abc" ("1", "u1", none)).2.1 ⟨_, before, rfl⟩).2
  obtain ⟨link, found, facts⟩ := later
  rw [show Write.next _ _ = twoTexts.foldl Write.next (ofDatabase "sqlite" .indexed) from rfl,
    after] at found
  cases found
  simp [Link.facts] at facts

end Store

end ShortLinks
