import ShortLinks.Proofs.Store.Agreement
import ShortLinks.Proofs.Store.Reading
import ShortLinks.Proofs.Store.UniqueUrls

/-!
What the table says about the keys of a batch that succeeded.

* `Authoritative` — under every key of the batch the table holds what the index holds, every link
  that stood in the way of a skipped entry can be read, and so can every stored entry.
* `Repairs` — what a batch needs for that of the table and the index before it. Each condition
  belongs to one way in which entries that an earlier batch left behind, or identities that come
  with the entries, can lead the merge or its correction astray; the last two are about keys that
  do not read back as themselves.
* `authoritative_iff_repairs` — after any attempts on a keeper that may have been out of reach, a
  batch that succeeds makes the table authoritative exactly when it repairs.
-/

namespace ShortLinks

open Store (named Withdrawn)

/-! ### Reading -/

namespace Store

/-- In a keyed table a link is read by its own key exactly when the key reads back as itself and
the link stands under it. -/
theorem getLink_key_iff {store : Store} (keyed : LinkMap.Keyed store.links) {link : Link}
    {key : String} (own : link.key = key) :
    store.getLink key = .ok link ↔ keyOf key = key ∧ store.links[key]? = some link := by
  rw [getLink_eq_ok_iff]
  constructor
  · intro found
    have back : keyOf key = key := (keyed _ link found).symm.trans own
    exact ⟨back, by rwa [back] at found⟩
  · rintro ⟨back, found⟩
    rwa [back]

/-- The table is authoritative for the keys of a batch that was answered with a report. -/
structure Authoritative (call : BatchCall) (report : BatchReport) (store : Store)
    (index : LinkIndex) : Prop where
  /-- Table and index agree under every key of the batch. -/
  agrees : ∀ (key : String) (mine : Link), call.normal[key]? = some mine →
    store.links[key]? = index.byKey[key]?
  /-- Every link that stood in the way can be read by its key. -/
  reads_holders : ∀ skip ∈ report.skipped, store.getLink skip.2.key = .ok skip.2
  /-- Every stored entry can be read by its key. -/
  reads_stored : ∀ (key : String) (mine : Link), call.normal[key]? = some mine →
    key ∉ report.skipped.map (·.1) → store.getLink key = .ok mine

end Store

namespace BatchCall

variable {call : BatchCall} {table : LinkMap} {index : LinkIndex} {key : String} {mine : Link}

/-- What a batch needs of table and index to make the table authoritative for its keys. -/
structure Repairs (call : BatchCall) (table : LinkMap) (index : LinkIndex) : Prop where
  /-- A stored entry that no skipped one names is let in by the merge, or stood there already. -/
  merged : ∀ (key : String) (mine : Link), call.normal[key]? = some mine →
    key ∉ (call.skipped index).map (·.1) → key ∉ named (call.skipped index) →
      (call.merge table)[key]? = some mine
  /-- Under the key of a skipped entry that none names, the table holds what the index holds, not
  counting a link with the identity of the entry. -/
  skipped : ∀ (key : String) (mine : Link), call.normal[key]? = some mine →
    key ∈ (call.skipped index).map (·.1) → key ∉ named (call.skipped index) →
      table[key]?.filter (fun old => mine.id ≠ old.id) = index.byKey[key]?
  /-- No link that stood in the way is withdrawn. -/
  holders : ∀ skip ∈ call.skipped index,
    ¬ Withdrawn call.normal (call.skipped index) skip.2.key skip.2
  /-- The keys of the links that stood in the way read back as themselves. -/
  holder_keys : ∀ skip ∈ call.skipped index, keyOf skip.2.key = skip.2.key
  /-- The keys of the stored entries read back as themselves. -/
  stored_keys : ∀ (key : String) (mine : Link), call.normal[key]? = some mine →
    key ∉ (call.skipped index).map (·.1) → keyOf key = key

/-! ### The corrected table under the keys of the batch -/

section Settle

variable (sound : index.Sound)
include sound

/-- A link that stood in the way stands in the table unless it is withdrawn. -/
theorem getElem?_settle_holder {skip : String × Link} (mem : skip ∈ call.skipped index) :
    (call.settle table index)[skip.2.key]? = some skip.2 ↔
      ¬ Withdrawn call.normal (call.skipped index) skip.2.key skip.2 := by
  have isNamed : skip.2.key ∈ named (call.skipped index) := List.mem_map_of_mem mem
  rw [call.getElem?_settle sound, if_pos isNamed, call.holder_stored sound skip mem]
  exact and_iff_right rfl

/-- Under the key of a stored entry that none names stands what the merge left there. -/
theorem getElem?_settle_stored (notSkipped : key ∉ (call.skipped index).map (·.1))
    (unnamed : key ∉ named (call.skipped index)) :
    (call.settle table index)[key]? = (call.merge table)[key]? := by
  refine Option.ext fun link => ?_
  rw [call.getElem?_settle sound, if_neg unnamed]
  exact and_iff_left fun withdrawn => notSkipped withdrawn.requested.1

/-- Under the key of a skipped entry that none names stands what stood there before, unless it
bears the identity of the entry. -/
theorem getElem?_settle_skipped (found : call.normal[key]? = some mine)
    (requested : key ∈ (call.skipped index).map (·.1))
    (unnamed : key ∉ named (call.skipped index)) :
    (call.settle table index)[key]? = table[key]?.filter (fun old => mine.id ≠ old.id) := by
  refine Option.ext fun link => ?_
  rw [call.getElem?_settle sound, if_neg unnamed, Store.withdrawn_iff_of_notMem unnamed, found,
    Option.filter_eq_some_iff]
  constructor
  · rintro ⟨stands, stays⟩
    have other : mine.id ≠ link.id := fun same => stays ⟨requested, by simp [same]⟩
    rcases of_merge stands with old | ⟨-, also, -⟩
    · exact ⟨old, by simpa using other⟩
    · exact absurd (congrArg Link.id (Option.some.inj (found.symm.trans also))) other
  · rintro ⟨old, other⟩
    refine ⟨call.merge_kept old, fun ⟨_, bears⟩ => ?_⟩
    simp_all

end Settle

/-- **A batch makes the table authoritative exactly when it repairs**, for one table and one
index. -/
theorem authoritative_iff_of_orderly (orderly : Books.Orderly (table, index)) {store : Store}
    (links : store.links = call.settle table index) :
    Store.Authoritative call (call.filed index).report store (call.filed index).index ↔
      call.Repairs table index := by
  obtain ⟨keyedTable, sound, -⟩ := orderly
  have keyed : LinkMap.Keyed store.links := links ▸ call.settle_keyed sound keyedTable
  constructor
  · rintro ⟨agrees, reads_holders, reads_stored⟩
    rw [links] at agrees
    refine ⟨?_, ?_, ?_, ?_, ?_⟩
    · intro key mine found notSkipped unnamed
      obtain ⟨-, -, stored, -⟩ := stored_normal sound found notSkipped
      rw [← getElem?_settle_stored sound notSkipped unnamed, agrees key mine found, stored]
    · intro key mine found requested unnamed
      rw [← getElem?_settle_skipped sound found requested unnamed, agrees key mine found,
        filed_skipped sound requested]
    · intro skip mem
      have read := (Store.getLink_key_iff keyed rfl).mp (reads_holders skip mem)
      exact (getElem?_settle_holder sound mem).mp (links ▸ read.2)
    · intro skip mem
      exact ((Store.getLink_key_iff keyed rfl).mp (reads_holders skip mem)).1
    · intro key mine found notSkipped
      have own := call.normal_keyed key mine found
      exact ((Store.getLink_key_iff keyed own).mp (reads_stored key mine found notSkipped)).1
  · rintro ⟨merged, skipped, holders, holder_keys, stored_keys⟩
    have agrees : ∀ (key : String) (mine : Link), call.normal[key]? = some mine →
        (call.settle table index)[key]? = (call.filed index).index.byKey[key]? := by
      intro key mine found
      by_cases isNamed : key ∈ named (call.skipped index)
      · obtain ⟨skip, mem, rfl⟩ := List.mem_map.mp isNamed
        rw [(getElem?_settle_holder sound mem).mpr (holders skip mem),
          call.holder_stored sound skip mem]
      · by_cases requested : key ∈ (call.skipped index).map (·.1)
        · rw [getElem?_settle_skipped sound found requested isNamed,
            skipped key mine found requested isNamed, filed_skipped sound requested]
        · obtain ⟨-, -, stored, -⟩ := stored_normal sound found requested
          rw [getElem?_settle_stored sound requested isNamed,
            merged key mine found requested isNamed, stored]
    refine ⟨links ▸ agrees, ?_, ?_⟩
    · intro skip mem
      refine (Store.getLink_key_iff keyed rfl).mpr ⟨holder_keys skip mem, ?_⟩
      rw [links]
      exact (getElem?_settle_holder sound mem).mpr (holders skip mem)
    · intro key mine found notSkipped
      obtain ⟨-, -, stored, -⟩ := stored_normal sound found notSkipped
      refine (Store.getLink_key_iff keyed (call.normal_keyed key mine found)).mpr
        ⟨stored_keys key mine found notSkipped, ?_⟩
      rw [links, agrees key mine found, stored]

/-- While table and index agree, every fresh batch repairs whose keys read back as themselves. -/
theorem repairs_of_agreed (sound : index.Sound) (isFresh : call.FreshFor index.byKey)
    (holder_keys : ∀ skip ∈ call.skipped index, keyOf skip.2.key = skip.2.key)
    (stored_keys : ∀ (key : String) (mine : Link), call.normal[key]? = some mine →
      key ∉ (call.skipped index).map (·.1) → keyOf key = key) :
    call.Repairs index.byKey index where
  merged key mine found notSkipped unnamed := by
    obtain ⟨free, unled, -⟩ := stored_normal sound found notSkipped
    exact (merge_or_named_of_stored sound (fun _ stands => stands) found notSkipped free
      unled).resolve_right unnamed
  skipped key mine found requested unnamed := by
    cases present : index.byKey[key]? with
    | none => rfl
    | some old => simp [isFresh.normal_id_ne found present]
  holders skip mem withdrawn := by
    have stored := call.holder_stored sound skip mem
    rw [filed_skipped sound withdrawn.requested.1] at stored
    exact isFresh.not_withdrawn stored _ withdrawn
  holder_keys := holder_keys
  stored_keys := stored_keys

end BatchCall

/-! ### After any attempts -/

namespace Store

/-- The opened store and its keeper after some attempts; the keeper may now be out of reach. -/
def afterAttempts (down : Bool) (attempts : List Attempt) (now : Bool) :
    Store × Unreliable MemoryKeeper :=
  let state := attempts.foldl Attempt.next (opened down)
  (state.1, { state.2 with down := now })

theorem orderly_after (down : Bool) (attempts : List Attempt) (now : Bool) :
    (Write.books (afterAttempts down attempts now)).Orderly :=
  foldl_of_step Attempt.next_orderly (orderly_opened down) attempts

/-- **When a batch makes the table authoritative for its keys**: after any attempts on a keeper in
memory that may have been out of reach, and for every batch that succeeds, exactly when the batch
repairs what the attempts left behind. -/
theorem authoritative_iff_repairs (down : Bool) (attempts : List Attempt) (now : Bool)
    (call : BatchCall) {state : Store × Unreliable MemoryKeeper}
    (reached : state = afterAttempts down attempts now) {report : BatchReport} {store : Store}
    {keeper : Unreliable MemoryKeeper}
    (answered : state.1.insertInOrder state.2 call = ⟨.ok report, store, keeper⟩) :
    Authoritative call report store (IndexedKeeper.index keeper) ↔
      call.Repairs state.1.links (IndexedKeeper.index state.2) := by
  have orderly := orderly_after down attempts now
  rw [← reached] at orderly
  obtain ⟨rfl, links, index⟩ := insertInOrder_of_ok (congrArg Outcome.answer answered)
  rw [answered] at links index
  dsimp only at index
  rw [index]
  exact BatchCall.authoritative_iff_of_orderly orderly links

/-- A batch that fails. -/
def lostBatch : List Attempt := [⟨true, .batch (.tagged "1" [("a", ⟨"", "", "u", none, false⟩)])⟩]

/-- The same batch again, for which another identity is generated. -/
def retriedBatch : BatchCall := .tagged "2" [("a", ⟨"", "", "u", none, false⟩)]

theorem authoritative_iff_repairs_retriedBatch :
    ∃ store keeper,
      (afterAttempts false lostBatch false).1.insertInOrder (afterAttempts false lostBatch false).2
          retriedBatch = ⟨.ok ⟨1, []⟩, store, keeper⟩ ∧
        (Authoritative retriedBatch ⟨1, []⟩ store (IndexedKeeper.index keeper) ↔
          retriedBatch.Repairs (afterAttempts false lostBatch false).1.links
            (IndexedKeeper.index (afterAttempts false lostBatch false).2)) :=
  ⟨_, _, rfl, authoritative_iff_repairs false lostBatch false retriedBatch rfl rfl⟩

/-- The retried batch succeeds, but table and keeper hold different identities afterwards. -/
theorem retriedBatch_not_authoritative :
    ∃ store keeper,
      (afterAttempts false lostBatch false).1.insertInOrder (afterAttempts false lostBatch false).2
          retriedBatch = ⟨.ok ⟨1, []⟩, store, keeper⟩ ∧
        store.links["a"]? = some ⟨"#1a", "a", "u", none, false⟩ ∧
        (IndexedKeeper.index keeper).byKey["a"]? = some ⟨"#2a", "a", "u", none, false⟩ ∧
        ¬ Authoritative retriedBatch ⟨1, []⟩ store (IndexedKeeper.index keeper) := by
  have entry : retriedBatch.normal["a"]? = some ⟨"#2a", "a", "u", none, false⟩ := by decide +kernel
  refine ⟨_, _, rfl, ?_, ?_, fun authoritative => ?_⟩
  · decide +kernel
  · decide +kernel
  · exact absurd (authoritative.agrees "a" _ entry) (by decide +kernel)

end Store

end ShortLinks
