import ShortLinks.Proofs.Keeper.Narrowed
import ShortLinks.Proofs.Store.Stability

/-!
Short links that are written as their keys.

* `Link.Plain` — such a link is found by its text where it is found by its key, and its row gives it
  back.
* `Tallies` — a table and the rows of a database that hold what an index holds, all of it plain.
* `Tallies.next` — a plain write that succeeds over a database has the effect that it has over an
  index, and leaves the two sides so.
* `facts_last_of_plain` — so whatever is once read in a run of plain writes is read ever after.
-/

namespace ShortLinks

open LinkIndex (entryLink Lost)
open DatabaseKeeper (InTheWay)

/-- A link that is written as its key, and whose owner is not the empty text. -/
structure Link.Plain (l : Link) : Prop where
  text : l.shortUrl = l.key
  named : l.owner ≠ some ""

theorem Link.Plain.shortUrl_eq {l other : Link} (plain : l.Plain) (alsoPlain : other.Plain)
    (same : l.key = other.key) : l.shortUrl = other.shortUrl := by
  rw [plain.text, alsoPlain.text, same]

theorem Link.Plain.deletedBy {l : Link} (plain : l.Plain) (requests : List DeletionRequest) :
    (Copies.deletedBy requests l).Plain := by
  unfold Copies.deletedBy LinkMap.afterPairs
  split
  · exact ⟨plain.text, plain.named⟩
  · exact plain

/-- Does a write bring in plain links only? -/
def Write.Plain : Write → Prop
  | .link fresh key record => (entryLink (fun _ => fresh) (key, record)).Plain
  | .batch call => ∀ entry ∈ call.batch.toList, (entryLink call.fresh entry).Plain
  | _ => True

/-- **A deletion over a database** marks the same links in the table and in the rows. -/
theorem Write.deletion_next {state : Store × DatabaseKeeper} {links : List Link}
    (holds : state.2.Holds (links.map Link.toRow)) (ids : (links.map (·.id)).Nodup)
    (requests : List DeletionRequest) : (Write.deletion requests).next state
      = ({ state.1 with links := (LinkMap.tombstone state.1.links requests).1 },
        state.2.withLinks ((links.map (Copies.deletedBy requests)).map Link.toRow)) := by
  have updated := DatabaseKeeper.updateBatch_eq holds (by rwa [List.map_map]) requests
  rw [Copies.marked_rows] at updated
  simp only [Write.next, Write.outcome, Store.Outcome.status, Store.deleteLinks]
  by_cases noKeys : requests.all (·.keys.isEmpty) = true
  · have nothing := Store.pairs_of_noKeys noKeys
    have none : DatabaseKeeper.updateBatch requests state.2 = (.ok (), state.2) := by
      rw [DatabaseKeeper.updateBatch, DatabaseKeeper.keyPairs, nothing]
      rfl
    rw [if_pos noKeys, ← (Prod.mk.inj (none.symm.trans updated)).2, LinkMap.tombstone, nothing]
    rfl
  · rw [if_neg noKeys, show Keeper.updateBatch requests state.2 = _ from updated]

theorem BatchCall.plain_normal {call : BatchCall} (plain : (Write.batch call).Plain) {key : String}
    {link : Link} (found : call.normal[key]? = some link) : link.Plain := by
  obtain ⟨entry, mem, -, rfl⟩ := exists_of_normal found
  exact plain entry mem

/-- The table and the rows hold these links, which an index holds too, and all of them are plain. -/
structure Tallies (links : List Link) (index : LinkIndex) (state : Store × DatabaseKeeper) :
    Prop where
  rows : state.2.Holds (links.map Link.toRow)
  copies : Copies links index
  ids : (links.map (·.id)).Nodup
  plain : ∀ link ∈ links, link.Plain
  table : state.1.links = index.byKey

namespace Tallies

variable {links : List Link} {index : LinkIndex} {state : Store × DatabaseKeeper}

theorem rows_eq (tallies : Tallies links index state) : state.2.rows = links.map Link.toRow :=
  tallies.rows.rows_eq

/-- The index has nothing in the way of a plain link that no row is in the way of. -/
theorem free_of_rows (tallies : Tallies links index state) {own : Link} (plain : own.Plain)
    (rowsFree : ∀ row ∈ links.map Link.toRow,
      row.originalUrl ≠ own.originalUrl ∧ row.shortUrl ≠ own.shortUrl) :
    index.byKey[own.key]? = none ∧ ¬ LinkMap.Leads index.byKey own.originalUrl := by
  refine ⟨Option.eq_none_iff_forall_ne_some.mpr fun old found => ?_, fun leads => ?_⟩
  · obtain ⟨mem, same⟩ := (tallies.copies.holds _ _).mp found
    exact (rowsFree _ (List.mem_map_of_mem mem)).2
      ((tallies.plain old mem).shortUrl_eq plain same)
  · obtain ⟨old, mem, url⟩ := tallies.copies.leads_iff.mp leads
    exact (rowsFree _ (List.mem_map_of_mem mem)).1 url

theorem next_link (tallies : Tallies links index state) {fresh key : String} {record : Link}
    (plain : (Write.link fresh key record).Plain)
    (ok : (Write.link fresh key record).Succeeds state) :
    ∃ after, Tallies after ((Write.link fresh key record).effect (state.1.links, index)).2
      ((Write.link fresh key record).next state) := by
  have saved : Keeper.save fresh key record state.2 = _ :=
    DatabaseKeeper.save_eq tallies.rows (fun _ => fresh) (key, record) rfl
  have step := tallies.copies.sound.insertion (fun _ => fresh) (key, record)
  simp only [Write.Plain, Write.Succeeds, Write.next, Write.outcome, Store.Outcome.status,
    Store.insertLink, saved, Write.effect] at plain ok ⊢
  generalize entryLink (fun _ => fresh) (key, record) = own at plain ok step ⊢
  generalize index.insert fresh key record = answer at step ⊢
  cases way : Database.conflicting? (links.map Link.toRow) own.originalUrl own.shortUrl with
  | some row =>
      obtain ⟨stored, inWay⟩ := Database.of_conflicting? way
      obtain ⟨old, mem, rfl⟩ := List.mem_map.mp stored
      rw [tallies.copies.eq_existing_of_row step mem inWay]
      refine ⟨links, tallies.rows, tallies.copies, tallies.ids, tallies.plain, ?_⟩
      have back := toRow_toLink_eq_self_iff.mpr (tallies.plain old mem).named
      simp only [Inserted.record, back, tallies.table]
      exact LinkMap.insert_eq_self (tallies.copies.mem_iff.mp mem)
  | none =>
      obtain ⟨free, unled⟩ :=
        tallies.free_of_rows plain (Database.conflicting?_eq_none_iff.mp way)
      rw [step.eq_created free unled]
      simp only [way] at ok ⊢
      by_cases borne : (links.map Link.toRow).any (·.id = own.id) = true
      · rw [if_pos borne] at ok
        cases ok
      · rw [if_neg borne]
        refine ⟨links ++ [own], ⟨tallies.rows.isOpen, ?_⟩, tallies.copies.append free unled, ?_, ?_,
          ?_⟩
        · rw [List.map_append]
          rfl
        · refine Copies.nodup_map_concat tallies.ids fun other mem same => borne ?_
          exact List.any_eq_true.mpr ⟨_, List.mem_map_of_mem mem, decide_eq_true same⟩
        · simpa [or_imp, forall_and] using ⟨tallies.plain, plain⟩
        · simp only [Inserted.record, tallies.table, LinkIndex.byKey_put]

/-- No link in the way of a plain batch is lost. -/
theorem not_lost (tallies : Tallies links index state) {call : BatchCall}
    (plain : (Write.batch call).Plain) {skip : String × Link} (mem : skip ∈ call.skipped index) :
    ¬ Lost index.byKey (InTheWay call.normal.toList) skip.2 := by
  rintro ⟨stored, changed⟩
  have old := tallies.plain _ (tallies.copies.mem_iff.mpr stored)
  obtain ⟨mine, found, why⟩ := BatchCall.exists_of_skip tallies.copies.sound mem
  refine old.named (changed ⟨(skip.1, mine),
    Std.ExtTreeMap.mem_toList_iff_getElem?_eq_some.mpr found, why.imp_right fun same => ?_⟩)
  have own : mine.key = skip.1 := call.normal_keyed _ _ found
  rw [← own, BatchCall.fillShortUrl_key_self]
  exact old.shortUrl_eq (BatchCall.plain_normal plain found) (same.trans own.symm)

theorem next_batch (tallies : Tallies links index state) {call : BatchCall}
    (plain : (Write.batch call).Plain) (isFresh : call.FreshFor state.1.links)
    (ok : (Write.batch call).Succeeds state) :
    ∃ after, Tallies after ((Write.batch call).effect (state.1.links, index)).2
      ((Write.batch call).next state) := by
  obtain ⟨settled, rows, added, holds⟩ := Write.batch_next_of_ok tallies.rows.serving ok
  have narrowed := tallies.copies.narrowed_rowsInTheWay state.2.reads call.fresh call.normal
  rw [← tallies.rows_eq] at narrowed
  obtain ⟨alike_iff, created_eq⟩ :=
    narrowed.report_eq_iff call.fresh (LinkMap.keys_nodup call.normal)
  have same : (call.filed (state.2.indexFor call.fresh call.normal)).report
      = (call.filed index).report :=
    alike_iff.mpr fun skip mem => tallies.not_lost plain mem
  have created : (call.filed (state.2.indexFor call.fresh call.normal)).created
      = (call.filed index).created :=
    created_eq same
  have more : Copies (links ++ (call.filed index).created) (call.filed index).index :=
    tallies.copies.insertEntries call.fresh call.normal.toList
  rw [created, tallies.rows_eq, more.addLinks_eq tallies.ids] at added
  by_cases ids : ((links ++ (call.filed index).created).map (·.id)).Nodup
  · rw [if_pos ids] at added
    obtain rfl := Except.ok.inj added
    refine ⟨_, holds, more, ids, fun link mem => ?_, ?_⟩
    · rcases BatchCall.of_filed tallies.copies.sound (more.mem_iff.mp mem) with old | ⟨-, mine, -⟩
      · exact tallies.plain link (tallies.copies.mem_iff.mpr old)
      · exact BatchCall.plain_normal plain mine
    · rw [tallies.table] at isFresh settled
      have sameSettled : call.settle index.byKey (state.2.indexFor call.fresh call.normal)
          = call.settle index.byKey index := by
        rw [BatchCall.settle, BatchCall.skipped, same]
        rfl
      rw [settled, sameSettled, BatchCall.settle_eq_filed tallies.copies.sound isFresh]
      rfl
  · rw [if_neg ids] at added
    cases added

theorem next_user (tallies : Tallies links index state) (fresh email : String) (record : User) :
    Tallies links index ((Write.user fresh email record).next state) := by
  obtain ⟨table, keeper⟩ := Write.user_next state fresh email record
  refine ⟨?_, tallies.copies, tallies.ids, tallies.plain, table.trans tallies.table⟩
  rw [keeper]
  exact DatabaseKeeper.saveUser_holds tallies.rows fresh email record

theorem next_deletion (tallies : Tallies links index state) (requests : List DeletionRequest) :
    Tallies (links.map (Copies.deletedBy requests)) (index.tombstone requests).1
      ((Write.deletion requests).next state) := by
  rw [Write.deletion_next tallies.rows tallies.ids]
  refine ⟨⟨tallies.rows.isOpen, rfl⟩, tallies.copies.tombstone requests, ?_, ?_, ?_⟩
  · simpa [Function.comp_def] using tallies.ids
  · intro link mem
    obtain ⟨before, stored, rfl⟩ := List.mem_map.mp mem
    exact (tallies.plain before stored).deletedBy requests
  · rw [LinkIndex.byKey_tombstone, ← tallies.table]

/-- **A plain write over a database** that succeeds has the effect that it has over an index. -/
theorem next (tallies : Tallies links index state) {write : Write} (regular : write.Regular state)
    (plain : write.Plain) :
    ∃ after, Tallies after (write.effect (state.1.links, index)).2 (write.next state) := by
  obtain ⟨ok, isFresh⟩ := regular
  cases write with
  | link fresh key record => exact tallies.next_link plain ok
  | user fresh email record => exact ⟨links, tallies.next_user fresh email record⟩
  | batch call => exact tallies.next_batch plain isFresh ok
  | deletion requests => exact ⟨_, tallies.next_deletion requests⟩

/-- So a plain write over a database keeps the facts. -/
theorem keeps_next (tallies : Tallies links index state) {write : Write}
    (regular : write.Regular state) (plain : write.Plain) :
    LinkMap.Keeps state.1.links (write.next state).1.links := by
  obtain ⟨after, later⟩ := tallies.next regular plain
  have agreed : Books.Agreed (state.1.links, index) := ⟨tallies.copies.sound, tallies.table⟩
  have isFresh (call : BatchCall) (batch : write = .batch call) :
      call.FreshFor state.1.links := by
    subst batch
    exact regular.2
  have kept := Write.keeps_effect agreed isFresh
  rwa [(Write.effect_agreed agreed isFresh).same, ← later.table] at kept

end Tallies

namespace Store

theorem tallies_ofDatabase (backend : String) (reads : ReadOrder) :
    Tallies [] {} (ofDatabase backend reads) where
  rows := ⟨rfl, rfl⟩
  copies := .empty
  ids := .nil
  plain := by simp
  table := rfl

/-- **Keys are not taken over** in a run without failures over an empty database, if every link is
written as its key and no owner is the empty text. -/
theorem facts_last_of_plain (backend : String) (reads : ReadOrder) {writes : List Write}
    (along : Along Write.next (fun state write => write.Regular state ∧ write.Plain)
      (ofDatabase backend reads) writes) : FactsLast (ofDatabase backend reads) writes := by
  let tallied (state : Store × DatabaseKeeper) : Prop := ∃ links index, Tallies links index state
  have start : tallied (ofDatabase backend reads) := ⟨[], {}, tallies_ofDatabase backend reads⟩
  have stays (state : Store × DatabaseKeeper) (write : Write) :
      tallied state → write.Regular state ∧ write.Plain → tallied (write.next state) := by
    rintro ⟨links, index, tallies⟩ ⟨regular, plain⟩
    obtain ⟨after, later⟩ := tallies.next regular plain
    exact ⟨after, _, later⟩
  have keeps (state : Store × DatabaseKeeper) (write : Write) :
      tallied state → write.Regular state ∧ write.Plain → ∀ shortUrl facts,
        ReadsFacts shortUrl facts state → ReadsFacts shortUrl facts (write.next state) := by
    rintro ⟨links, index, tallies⟩ ⟨regular, plain⟩
    have keyed : LinkMap.Keyed state.1.links := by
      rw [tallies.table]
      exact tallies.copies.sound.keyed
    exact (forall_readsFacts_iff keyed).mpr (tallies.keeps_next regular plain)
  exact lasting_facts_iff.mpr (along.imp stays keeps start)

end Store

end ShortLinks
