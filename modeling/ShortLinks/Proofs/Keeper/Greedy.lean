import ShortLinks.Proofs.Keeper.Matched
import ShortLinks.Proofs.Text.ByteOrder

/-!
Batches in the order of their keys.

* `Fitting` — what holds of an index that was made of any table and went through any changes: its
  addresses are held where links lead to them, also when several links lead to one of them.
* `inByteOrder`, `inByteOrder_eq` — the entries of a batch by the bytes of their requested keys, in
  whatever order they come.
* `Greedy`, `Fit.greedy` — a batch decides on one entry after the other, by what the index held
  before and what the earlier entries brought.
* `insertBatch_greedy` — so does every batch that is inserted into such an index.
-/

namespace ShortLinks

namespace LinkIndex

open LinkMap (Leads entriesOf insertAll)

/-! ### Indexes of any table -/

namespace Draft

variable {d : Draft} {own link : Link}

/-- Addresses are held where links lead to them, and the links that may be taken back stand in the
index, each as the only one to its address. -/
structure Fitting (d : Draft) : Prop where
  fit : d.index.Fit
  tracks : d.Tracks
  sole : ∀ link ∈ d.recent, ∀ (key : String) (other : Link), d.index.byKey[key]? = some other →
    other.originalUrl = link.originalUrl → key = link.key

theorem Fitting.put (fitting : d.Fitting) (free : d.index.byKey[own.key]? = none)
    (unled : ¬ Leads d.index.byKey own.originalUrl) : (d.put own).Fitting where
  fit := fitting.fit.put free own
  tracks := fitting.tracks.put free
  sole := by
    intro link mem key other found same
    rcases (byKey_put_eq_some_iff free).mp found with old | ⟨rfl, rfl⟩
    · rcases List.mem_append.mp mem with earlier | new
      · exact fitting.sole link earlier key other old same
      · obtain rfl := List.mem_singleton.mp new
        exact absurd ⟨key, other, old, same⟩ unled
    · rcases List.mem_append.mp mem with earlier | new
      · obtain ⟨stored, stands, -, url⟩ := fitting.tracks.stands link earlier
        exact absurd ⟨link.key, stored, stands, url.trans same.symm⟩ unled
      · rw [List.mem_singleton.mp new]

theorem Fitting.tombstone (fitting : d.Fitting) (requests : List DeletionRequest) :
    (d.tombstone requests).Fitting where
  fit := fitting.fit.tombstone requests
  tracks := fitting.tracks.tombstone requests
  sole := by
    intro link mem key other found same
    rw [Draft.tombstone, byKey_tombstone, LinkMap.getElem?_tombstone] at found
    obtain ⟨before, present, rfl⟩ := Option.map_eq_some_iff.mp found
    exact fitting.sole link mem key before present (by simpa using same)

theorem Fitting.remove (fitting : d.Fitting) (mem : link ∈ d.recent) : (d.remove link).Fitting := by
  have stands := fitting.tracks.stands link mem
  have removed : (d.remove link).index
      = ⟨d.index.byKey.erase link.key, d.index.keyByUrl.erase link.originalUrl⟩ :=
    remove_of_stands stands
  have of_erased {key : String} {other : Link}
      (found : (d.remove link).index.byKey[key]? = some other) :
      link.key ≠ key ∧ d.index.byKey[key]? = some other := by
    simpa [removed, Std.ExtTreeMap.getElem?_erase] using found
  refine ⟨⟨fun key other found => ?_, fun url key holds => ?_⟩, fitting.tracks.remove mem, ?_⟩
  · obtain ⟨apart, present⟩ := of_erased found
    obtain ⟨holder, holds⟩ := fitting.fit.held key other present
    have otherUrl : link.originalUrl ≠ other.originalUrl := fun same =>
      apart (fitting.sole link mem key other present same.symm).symm
    exact ⟨holder, by simp [removed, Std.ExtTreeMap.getElem?_erase, otherUrl, holds]⟩
  · obtain ⟨otherUrl, holds⟩ : link.originalUrl ≠ url ∧ d.index.keyByUrl[url]? = some key := by
      simpa [removed, Std.ExtTreeMap.getElem?_erase] using holds
    obtain ⟨other, present, leads⟩ := fitting.fit.leads url key holds
    have apart : link.key ≠ key := by
      rintro rfl
      obtain ⟨stored, found, -, storedUrl⟩ := stands
      obtain rfl := Option.some.inj (present.symm.trans found)
      exact otherUrl (storedUrl.symm.trans leads)
    exact ⟨other, by simp [removed, Std.ExtTreeMap.getElem?_erase, apart, present], leads⟩
  · intro other otherMem key twin found same
    exact fitting.sole other (List.mem_of_mem_erase otherMem) key twin (of_erased found).2 same

/-- An index that was made of any table stays fit through any changes. -/
theorem fitting_after {links : LinkMap} {entries : List (String × Link)}
    (order : entries.Perm links.toList) {changes : List Change}
    (along : Along next Allows ⟨ofList entries, []⟩ changes) :
    (changes.foldl next ⟨ofList entries, []⟩).Fitting := by
  have start : Fitting ⟨ofList entries, []⟩ := ⟨fit_ofList order, ⟨by simp, .nil⟩, by simp⟩
  refine (throughout_of_step (fun d change fitting allowed => ?_) start along).last
  exact holds_next (fun _ fitting => fitting.fit)
    (fun _ _ fitting free unled => fitting.put free unled)
    (fun _ requests fitting => fitting.tombstone requests)
    (fun _ _ fitting mem => fitting.remove mem) fitting allowed

end Draft

/-! ### The order of a batch -/

/-- Entries by the bytes of their requested keys. -/
def inByteOrder (entries : List (String × Link)) : List (String × Link) :=
  entries.mergeSort fun a b => decide (Text.bytes a.1 ≤ Text.bytes b.1)

/-- A table lists its entries by the bytes of their keys. -/
theorem toList_ascending (links : LinkMap) :
    links.toList.Pairwise fun a b => Text.bytes a.1 < Text.bytes b.1 := by
  refine links.ordered_keys_toList.imp fun less => ?_
  exact Text.bytes_lt_iff.mpr (compare_lt_iff_lt.mp less)

/-- In whatever order the entries of a table come, sorted they are in the order of the table. -/
theorem inByteOrder_eq {links : LinkMap} {order : List (String × Link)}
    (perm : order.Perm links.toList) : inByteOrder order = links.toList := by
  have sorted : (inByteOrder order).Pairwise fun a b => a.1 ≤ b.1 := by
    refine (List.pairwise_mergeSort ?_ ?_ order).imp fun upTo => ?_
    · intro a b c first second
      simp only [decide_eq_true_eq, Text.bytes_le_iff] at first second ⊢
      exact le_trans first second
    · intro a b
      simpa [Text.bytes_le_iff] using le_total a.1 b.1
    · simpa [Text.bytes_le_iff] using upTo
  have ascending : links.toList.Pairwise fun a b => a.1 ≤ b.1 :=
    (toList_ascending links).imp fun less => le_of_lt (Text.bytes_lt_iff.mp less)
  have same : (inByteOrder order).Perm links.toList := (List.mergeSort_perm _ _).trans perm
  refine same.eq_of_pairwise (fun a b memA memB upTo downTo => ?_) sorted ascending
  exact List.inj_on_of_nodup_map (LinkMap.keys_nodup links) (same.mem_iff.mp memA) memB
    (le_antisymm upTo downTo)

/-! ### Several links at once -/

/-- The index with links put in under their own keys. -/
def putAll (index : LinkIndex) (links : List Link) : LinkIndex := (entriesOf links).foldl put index

section PutAll

variable {index : LinkIndex} {links : List Link} {key url : String}

theorem byKey_putAll : (index.putAll links).byKey = insertAll index.byKey (entriesOf links) :=
  byKey_foldl_put _ index

theorem map_fst_entriesOf (links : List Link) :
    (entriesOf links).map (·.1) = links.map Link.key := by
  rw [entriesOf, List.map_map]
  rfl

theorem byKey_putAll_eq_none_iff :
    (index.putAll links).byKey[key]? = none ↔
      index.byKey[key]? = none ∧ key ∉ links.map Link.key := by
  rw [byKey_putAll, ← map_fst_entriesOf]
  by_cases named : key ∈ (entriesOf links).map (·.1)
  · simp only [named, LinkMap.getElem?_insertAll_ne_none named, not_true_eq_false, and_false]
  · simp only [named, LinkMap.getElem?_insertAll_of_notMem named, not_false_eq_true, and_true]

/-- Links that are put in under free keys lead to their addresses, and the others stay. -/
theorem leads_putAll_iff (free : ∀ own ∈ links, index.byKey[own.key]? = none)
    (distinct : (links.map Link.key).Nodup) :
    Leads (index.putAll links).byKey url ↔
      Leads index.byKey url ∨ url ∈ links.map (·.originalUrl) := by
  rw [byKey_putAll]
  constructor
  · rintro ⟨key, link, found, rfl⟩
    rcases LinkMap.of_getElem?_insertAll found with old | mem
    · exact .inl ⟨key, link, old, rfl⟩
    · obtain ⟨own, ownMem, made⟩ := List.mem_map.mp mem
      obtain ⟨-, rfl⟩ := Prod.mk.inj made
      exact .inr (List.mem_map_of_mem ownMem)
  · rintro (⟨key, link, found, leads⟩ | new)
    · have unnamed : key ∉ (entriesOf links).map (·.1) := by
        rw [map_fst_entriesOf]
        intro named
        obtain ⟨own, mem, rfl⟩ := List.mem_map.mp named
        rw [free own mem] at found
        cases found
      exact ⟨key, link, by rw [LinkMap.getElem?_insertAll_of_notMem unnamed, found], leads⟩
    · obtain ⟨own, mem, leads⟩ := List.mem_map.mp new
      refine ⟨own.key, own, LinkMap.getElem?_insertAll_of_mem ?_ (List.mem_map_of_mem mem), leads⟩
      rwa [map_fst_entriesOf]

/-- Key and address stay free if the links that are put in have other ones. -/
theorem putAll_free_iff (free : ∀ own ∈ links, index.byKey[own.key]? = none)
    (distinct : (links.map Link.key).Nodup) :
    ((index.putAll links).byKey[key]? = none ∧ ¬ Leads (index.putAll links).byKey url) ↔
      (index.byKey[key]? = none ∧ ¬ Leads index.byKey url) ∧
        key ∉ links.map Link.key ∧ url ∉ links.map (·.originalUrl) := by
  rw [byKey_putAll_eq_none_iff, leads_putAll_iff free distinct, not_or, and_and_and_comm]

end PutAll

/-! ### One entry after the other -/

/-- A batch decides on one entry after the other. An entry is *stored* when the report does not name
its requested key. -/
structure Greedy (fresh : String → String) (index : LinkIndex) (entries : List (String × Link))
    (result : BatchResult) : Prop where
  /-- An entry is stored exactly if the index holds neither its key nor its address, and no earlier
  stored entry has the one or the other. -/
  stored_iff : ∀ (first : List (String × Link)) (entry : String × Link)
    (later : List (String × Link)), entries = first ++ entry :: later →
      (entry.1 ∉ result.report.skipped.map (·.1) ↔
        (index.byKey[(entryLink fresh entry).key]? = none ∧
          ¬ Leads index.byKey entry.2.originalUrl) ∧
        (entryLink fresh entry).key ∉ (reported fresh first result.report).map Link.key ∧
          entry.2.originalUrl ∉ (reported fresh first result.report).map (·.originalUrl))
  /-- Every other entry is named with the link that is in its way when the earlier ones are in. -/
  inWay : ∀ (first : List (String × Link)) (entry : String × Link)
    (later : List (String × Link)) (holder : Link), entries = first ++ entry :: later →
      (entry.1, holder) ∈ result.report.skipped →
        (index.putAll (reported fresh first result.report)).InWay (entryLink fresh entry).key
          entry.2.originalUrl holder
  /-- The report names entries in their order, each at most once. -/
  order : (result.report.skipped.map (·.1)).Sublist (entries.map (·.1))
  once : (result.report.skipped.map (·.1)).Nodup
  /-- The links of the stored entries are created, in their order. -/
  created : result.created = reported fresh entries result.report
  counted : result.report.inserted = result.created.length
  /-- They come into the index, and nothing else does. -/
  index_eq : result.index = index.putAll result.created

section Cut

variable {fresh : String → String} {index : LinkIndex} {first : List (String × Link)}

/-- A link in the way takes the key or the address. -/
theorem InWay.not_free {key url : String} {holder : Link} (inWay : index.InWay key url holder) :
    ¬ (index.byKey[key]? = none ∧ ¬ Leads index.byKey url) := by
  rintro ⟨free, unled⟩
  rcases inWay with ⟨place, -, present, leads⟩ | ⟨-, present⟩
  · exact unled ⟨place, holder, present, leads⟩
  · rw [free] at present
    cases present

/-- What is reported of the first entries of a batch is what they alone create. -/
theorem Fit.reported_append (fit : index.Fit) {rest : List (String × Link)}
    (distinct : ((first ++ rest).map (·.1)).Nodup) :
    reported fresh first (index.insertEntries fresh (first ++ rest)).report
      = (index.insertEntries fresh first).created := by
  rw [List.map_append, List.nodup_append] at distinct
  obtain ⟨distinctFirst, -, apart⟩ := distinct
  rw [(fit.creates fresh distinctFirst).stored, insertEntries_append]
  unfold reported
  congr 1
  refine List.filter_congr fun entry mem => ?_
  have unnamed : entry.1 ∉ ((index.insertEntries fresh first).index.insertEntries fresh
      rest).report.skipped.map (·.1) := fun named =>
    apart _ (List.mem_map_of_mem mem) _ ((insertEntries_order fresh _ rest).subset named) rfl
  simp only [List.map_append, List.mem_append, unnamed, or_false]

/-- The decision on one entry of a batch: it is stored, where nothing is in its way when the earlier
entries are in, or named once, with the link in its way. -/
theorem Fit.decision_append (fit : index.Fit) (fresh : String → String) {entry : String × Link}
    {later : List (String × Link)} (distinct : ((first ++ entry :: later).map (·.1)).Nodup) :
    let moment := (index.insertEntries fresh first).index
    let skipped := (index.insertEntries fresh (first ++ entry :: later)).report.skipped
    (entry.1 ∉ skipped.map (·.1) ∧ moment.byKey[(entryLink fresh entry).key]? = none ∧
        ¬ Leads moment.byKey entry.2.originalUrl) ∨
      ∃ holder, moment.InWay (entryLink fresh entry).key entry.2.originalUrl holder ∧
        ∀ other, (entry.1, other) ∈ skipped ↔ other = holder := by
  obtain ⟨key, link⟩ := entry
  rw [List.map_append, List.map_cons, List.nodup_append, List.nodup_cons] at distinct
  obtain ⟨-, ⟨notLater, -⟩, apart⟩ := distinct
  have unnamedFirst : key ∉ (index.insertEntries fresh first).report.skipped.map (·.1) :=
    fun named => apart _ ((insertEntries_order fresh _ first).subset named) _ List.mem_cons_self rfl
  have unnamedLater (after : LinkIndex) :
      key ∉ (after.insertEntries fresh later).report.skipped.map (·.1) :=
    fun named => notLater ((insertEntries_order fresh _ later).subset named)
  have step := (fit.insertEntries fresh first).decision fresh (key, link)
  have url := entryLink_originalUrl fresh (key, link)
  dsimp only at step url ⊢
  rw [insertEntries_append]
  generalize (index.insertEntries fresh first).index = moment at step ⊢
  rw [LinkIndex.insertEntries]
  generalize moment.insert (fresh key) key link = answer at step
  cases step with
  | stored free unled =>
      refine .inl ⟨?_, free, url ▸ unled⟩
      simp only [List.map_append, List.mem_append, unnamedFirst, unnamedLater, or_self,
        not_false_eq_true]
  | @refused holder inWay =>
      refine .inr ⟨holder, url ▸ inWay, fun other => ?_⟩
      have notFirst : (key, other) ∉ (index.insertEntries fresh first).report.skipped :=
        fun mem => unnamedFirst (List.mem_map_of_mem mem)
      have notLater : (key, other) ∉ (moment.insertEntries fresh later).report.skipped :=
        fun mem => unnamedLater moment (List.mem_map_of_mem mem)
      simp [notFirst, notLater]

/-- **A batch decides on one entry after the other**, where its requested keys are distinct. -/
theorem Fit.greedy (fit : index.Fit) (fresh : String → String) {entries : List (String × Link)}
    (distinct : (entries.map (·.1)).Nodup) :
    Greedy fresh index entries (index.insertEntries fresh entries) where
  stored_iff := by
    rintro first entry later rfl
    have creates := fit.creates fresh
      (distinct.sublist ((List.sublist_append_left first (entry :: later)).map (·.1)))
    rw [fit.reported_append distinct, ← putAll_free_iff creates.free creates.distinct, putAll,
      ← index_insertEntries]
    rcases fit.decision_append fresh distinct with ⟨unnamed, free⟩ | ⟨holder, inWay, only⟩
    · exact iff_of_true unnamed free
    · have named := List.mem_map_of_mem (f := (·.1)) ((only holder).mpr rfl)
      exact iff_of_false (not_not_intro named) inWay.not_free
  inWay := by
    rintro first entry later holder rfl named
    rw [fit.reported_append distinct, putAll, ← index_insertEntries]
    rcases fit.decision_append fresh distinct with ⟨unnamed, -⟩ | ⟨found, inWay, only⟩
    · exact absurd (List.mem_map_of_mem named) unnamed
    · exact (only holder).mp named ▸ inWay
  order := insertEntries_order fresh index entries
  once := distinct.sublist (insertEntries_order fresh index entries)
  created := (fit.creates fresh distinct).stored
  counted := insertEntries_inserted fresh index entries
  index_eq := index_insertEntries fresh index entries

end Cut

/-! ### Reachable indexes -/

/-- An index that was made of any table, taken in any order, and went through any changes, of which
only links that came in are taken back. -/
def Reachable (index : LinkIndex) : Prop :=
  ∃ (links : LinkMap) (entries : List (String × Link)) (changes : List Change),
    entries.Perm links.toList ∧ Along Draft.next Draft.Allows ⟨ofList entries, []⟩ changes ∧
      (changes.foldl Draft.next ⟨ofList entries, []⟩).index = index

theorem Reachable.fit {index : LinkIndex} (reachable : index.Reachable) : index.Fit := by
  obtain ⟨links, entries, changes, order, along, rfl⟩ := reachable
  exact (Draft.fitting_after order along).fit

/-- **A batch is greedy in the order of its keys**: in whatever order its entries come, taken by the
bytes of their requested keys they are inserted alike, and the index decides on one after the
other. -/
theorem insertBatch_greedy {index : LinkIndex} (reachable : index.Reachable)
    (fresh : String → String) {batch : LinkMap} {order : List (String × Link)}
    (perm : order.Perm batch.toList) :
    index.insertEntries fresh (inByteOrder order) = index.insertBatch fresh batch ∧
      (inByteOrder order).Perm order ∧
      ((inByteOrder order).Pairwise fun a b => Text.bytes a.1 < Text.bytes b.1) ∧
      Greedy fresh index (inByteOrder order) (index.insertBatch fresh batch) := by
  refine ⟨?_, List.mergeSort_perm _ _, ?_⟩
  · rw [inByteOrder_eq perm, insertBatch]
  · rw [inByteOrder_eq perm]
    exact ⟨toList_ascending batch, reachable.fit.greedy fresh (LinkMap.keys_nodup batch)⟩

/-- Two links to one address, under keys that are not their own; a link comes in and is taken
back. -/
def twinsIndex : LinkIndex :=
  (([.insert "1" "x" ⟨"", "", "a.io", none, false⟩, .remove ⟨"1", "x", "a.io", none, false⟩] :
    List Change).foldl Draft.next ⟨ofList Draft.sampleTwins.toList, []⟩).index

/-- Entries that share a key, and one to the address of the twins. -/
def clashingBatch : LinkMap :=
  .ofList ([("a", ⟨"", "k", "a.io", none, false⟩), ("b", ⟨"", "k", "c.io", none, false⟩),
    ("c", ⟨"", "", "b.io", none, false⟩)] : List (String × Link))

theorem insertBatch_greedy_clashingBatch :
    twinsIndex.Reachable ∧ clashingBatch.toList.reverse.Perm clashingBatch.toList ∧
      Greedy id twinsIndex (inByteOrder clashingBatch.toList.reverse)
        (twinsIndex.insertBatch id clashingBatch) := by
  have reachable : twinsIndex.Reachable := by
    refine ⟨Draft.sampleTwins, _, _, .refl _, ?_, rfl⟩
    refine ⟨trivial, ?_, trivial⟩
    simp only [Draft.Allows]
    decide +kernel
  have perm := List.reverse_perm clashingBatch.toList
  exact ⟨reachable, perm, (insertBatch_greedy reachable id perm).2.2.2⟩

example : (twinsIndex.insertBatch id clashingBatch).report
    = ⟨1, [("b", ⟨"a", "k", "a.io", none, false⟩), ("c", ⟨"", "", "b.io", none, false⟩)]⟩ := by
  decide +kernel

end LinkIndex

end ShortLinks
