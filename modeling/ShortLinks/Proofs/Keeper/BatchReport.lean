import ShortLinks.Proofs.Keeper.Interchange
import ShortLinks.Proofs.Store.Reopening

/-!
What a database reports of a batch, against what the batch did to its rows.

* `Database.Distinct`, `Orderly.perform` — no call stores a value of a unique column twice.
* `judged`, `added` — the links that the index of the rows in the way lets in, and those of them
  that come in, because no row leads to their address.
* `BatchSaving`, `batchSaving` — a batch stores what comes in and is reported as it was judged, or
  an identity is taken and nothing happens. The text of a link that is let in is never in the way
  (`shortUrl_of_judged`).
* `Truthful` — a report counts the rows that came in, an entry that it does not name has its row,
  and one that it names is named with a row in its way.
* `honours_reached_iff` — a batch succeeds with such a report exactly when it overlooks no row and
  brings identities that nobody bears. It overlooks a row only if another one has the same key
  (`not_overlooks_of_keys`), and then it may count links that are dropped (`bothAgain_miscounted`).
-/

namespace ShortLinks

open LinkIndex (entryLink)

/-! ### Unique columns -/

namespace Database

/-- No unique column of the links holds a value twice. -/
structure Distinct (rows : List LinkRow) : Prop where
  apart : Apart rows
  ids : rows.Pairwise (·.id ≠ ·.id)

variable {rows more new : List LinkRow} {row : LinkRow}

theorem distinct_nil : Distinct [] := ⟨.nil, .nil⟩

theorem Distinct.concat (distinct : Distinct rows)
    (free : ∀ r ∈ rows, r.originalUrl ≠ row.originalUrl ∧ r.shortUrl ≠ row.shortUrl)
    (unborne : ∀ r ∈ rows, r.id ≠ row.id) : Distinct (rows ++ [row]) where
  apart := List.pairwise_append.mpr
    ⟨distinct.apart, List.pairwise_singleton _ _, by simpa using free⟩
  ids := List.pairwise_append.mpr
    ⟨distinct.ids, List.pairwise_singleton _ _, by simpa using unborne⟩

theorem Distinct.marked (distinct : Distinct rows) (pairs : List (String × String)) :
    Distinct (rows.map (marked pairs)) where
  apart := List.pairwise_map.mpr (by simpa [Apart] using distinct.apart)
  ids := List.pairwise_map.mpr (by simpa using distinct.ids)

/-- New links bear identities of their own, which no row bears. -/
structure Unborne (rows : List LinkRow) (links : List Link) : Prop where
  distinct : (links.map (·.id)).Nodup
  apart : ∀ row ∈ rows, ∀ link ∈ links, row.id ≠ link.id

theorem unborne_iff {links : List Link} (ids : rows.Pairwise (·.id ≠ ·.id)) :
    Unborne rows links ↔ (rows ++ links.map Link.toRow).Pairwise (·.id ≠ ·.id) := by
  rw [List.pairwise_append]
  constructor
  · rintro ⟨distinct, apart⟩
    refine ⟨ids, List.pairwise_map.mpr (List.pairwise_map.mp distinct), ?_⟩
    simpa using apart
  · rintro ⟨-, distinct, apart⟩
    have each : links.Pairwise fun link other => link.id ≠ other.id := by
      simpa [List.pairwise_map] using distinct
    exact ⟨List.pairwise_map.mpr each, by simpa using apart⟩

/-- Of new rows to different addresses, those to whose address a row leads are left out. -/
theorem addLinks_filter (urls : (new.map (·.originalUrl)).Nodup) :
    addLinks rows new = addLinks rows (new.filter fun row => !leadsTo rows row.originalUrl) := by
  induction new generalizing rows with
  | nil => rfl
  | cons row rest ih =>
      rw [List.map_cons, List.nodup_cons] at urls
      cases led : leadsTo rows row.originalUrl with
      | true =>
          have left : addLink rows row = .error .linkOriginalUrl := by
            have taken : rows.any (·.originalUrl = row.originalUrl) = true := led
            rw [addLink, if_pos taken]
          rw [List.filter_cons_of_neg (by simp [led]), ← ih urls.2, addLinks, left]
      | false =>
          rw [List.filter_cons_of_pos (by simp [led]), addLinks, addLinks]
          rcases addLink_cases rows row with ⟨added, -, -⟩ | ⟨-, led'⟩ | ⟨clash, failed, other⟩
          · have same : (rest.filter fun later => !leadsTo (rows ++ [row]) later.originalUrl)
                = rest.filter fun later => !leadsTo rows later.originalUrl := by
              refine List.filter_congr fun later mem => ?_
              have apart : row.originalUrl ≠ later.originalUrl := fun same =>
                urls.1 (same ▸ List.mem_map_of_mem mem)
              simp [leadsTo, apart]
            rw [added]
            exact same ▸ ih urls.2
          · exact absurd (led'.symm.trans led) (by decide)
          · rw [failed]
            cases clash <;> first | exact absurd rfl other | rfl

end Database

/-! ### Batches in a database -/

namespace DatabaseKeeper

variable {k after : DatabaseKeeper} {rows : List LinkRow} {fresh : String → String}
  {batch : LinkMap} {link : Link}

/-- What a batch is judged to store, before any row is written. -/
def judged (k : DatabaseKeeper) (fresh : String → String) (batch : LinkMap) :
    LinkIndex.BatchResult :=
  (k.indexFor fresh batch).insertBatch fresh batch

/-- The links that come in: of those that are judged to be stored, the ones to whose address no
row leads. -/
def added (k : DatabaseKeeper) (fresh : String → String) (batch : LinkMap) : List Link :=
  (k.judged fresh batch).created.filter fun link => !Database.leadsTo k.rows link.originalUrl

theorem judged_filed (k : DatabaseKeeper) (fresh : String → String) (batch : LinkMap) :
    LinkIndex.Filed fresh (k.indexFor fresh batch) batch.toList (k.judged fresh batch) :=
  (k.indexFor_sound fresh batch).insertBatch_filed fresh batch

theorem judged_creates (k : DatabaseKeeper) (fresh : String → String) (batch : LinkMap) :
    LinkIndex.Creates fresh (k.indexFor fresh batch) batch.toList (k.judged fresh batch) :=
  LinkIndex.insertEntries_creates fresh (LinkMap.keys_nodup batch) (k.indexFor_sound fresh batch)

/-- No row has the text of a link that is judged to be stored: the index would know it by its
key. -/
theorem shortUrl_of_judged (mem : link ∈ (k.judged fresh batch).created) {row : LinkRow}
    (stored : row ∈ k.rows) : row.shortUrl ≠ link.shortUrl := by
  intro same
  have creates := k.judged_creates fresh batch
  have free := creates.free link mem
  obtain ⟨entry, among, -, rfl⟩ := creates.mem_iff.mp mem
  rw [LinkIndex.entryLink_shortUrl] at same
  have found : row ∈ rowsInTheWay k.reads k.rows fresh batch :=
    mem_rowsInTheWay.mpr ⟨stored, entry, among, .inr same⟩
  have key : (entryLink fresh entry).key = row.key := by
    rw [Link.key, LinkIndex.entryLink_shortUrl, ← same, LinkRow.key]
  rw [indexFor, LinkIndex.ofMap, LinkIndex.byKey_ofList (.refl _), key] at free
  exact linkMapOf_ne_none found free

/-- The rows of the links that come in share no address and no text with one another and with the
rows that are there. -/
theorem apart_added (apart : Database.Apart k.rows) :
    Database.Apart (k.rows ++ (k.added fresh batch).map Link.toRow) := by
  have creates := k.judged_creates fresh batch
  have urls : ((k.judged fresh batch).created.map (·.originalUrl)).Nodup :=
    LinkIndex.insertEntries_urls fresh (LinkMap.keys_nodup batch) (k.indexFor_sound fresh batch)
  have each : (k.judged fresh batch).created.Pairwise fun link other =>
      link.originalUrl ≠ other.originalUrl ∧ link.shortUrl ≠ other.shortUrl :=
    ((List.pairwise_map.mp urls).and (List.pairwise_map.mp creates.distinct)).imp
      fun both => ⟨both.1, fun same => both.2 (congrArg keyOf same)⟩
  refine List.pairwise_append.mpr
    ⟨apart, List.pairwise_map.mpr (each.sublist List.filter_sublist), ?_⟩
  intro row stored new mem
  obtain ⟨link, comesIn, rfl⟩ := List.mem_map.mp mem
  obtain ⟨created, unled⟩ := List.mem_filter.mp comesIn
  refine ⟨fun same => ?_, shortUrl_of_judged created stored⟩
  have led : Database.leadsTo k.rows link.originalUrl = true :=
    Database.leadsTo_iff.mpr ⟨row, stored, same⟩
  simp [led] at unled

/-- The connection serves, and no unique column of the links holds a value twice. -/
structure Orderly (k : DatabaseKeeper) : Prop where
  serving : k.Serving
  distinct : Database.Distinct k.rows

theorem Holds.orderly (holds : k.Holds rows) (distinct : Database.Distinct rows) : k.Orderly :=
  ⟨holds.serving, holds.rows_eq ▸ distinct⟩

theorem addLinks_judged (k : DatabaseKeeper) (fresh : String → String) (batch : LinkMap) :
    Database.addLinks k.rows ((k.judged fresh batch).created.map Link.toRow)
      = Database.addLinks k.rows ((k.added fresh batch).map Link.toRow) := by
  have urls : (((k.judged fresh batch).created.map Link.toRow).map (·.originalUrl)).Nodup := by
    rw [List.map_map]
    exact LinkIndex.insertEntries_urls fresh (LinkMap.keys_nodup batch)
      (k.indexFor_sound fresh batch)
  rw [Database.addLinks_filter urls, List.filter_map]
  rfl

/-- What saving a batch does. -/
inductive BatchSaving (k : DatabaseKeeper) (fresh : String → String) (batch : LinkMap) :
    Except Fault BatchReport × DatabaseKeeper → Prop where
  /-- The links come in, and the batch is reported as it was judged. -/
  | stored (unborne : Database.Unborne k.rows (k.added fresh batch)) {after : DatabaseKeeper}
      (holds : after.Holds (k.rows ++ (k.added fresh batch).map Link.toRow)) :
      BatchSaving k fresh batch (.ok (k.judged fresh batch).report, after)
  /-- An identity is taken, and the whole batch fails. -/
  | clash (borne : ¬ Database.Unborne k.rows (k.added fresh batch)) {fault : Fault} :
      BatchSaving k fresh batch (.error fault, k)

theorem batchSaving (orderly : k.Orderly) (fresh : String → String) (batch : LinkMap) :
    BatchSaving k fresh batch (saveBatch fresh batch k) := by
  cases blank : batch.isEmpty with
  | true =>
      have nothing : k.judged fresh batch = ⟨{}, [], k.indexFor fresh batch⟩ := by
        rw [judged, LinkIndex.insertBatch, Std.ExtTreeMap.isEmpty_iff.mp blank]
        rfl
      have none : k.added fresh batch = [] := by rw [added, nothing, List.filter_nil]
      have report : {} = (k.judged fresh batch).report := by rw [nothing]
      rw [saveBatch, if_pos blank, report]
      refine .stored ?_ ?_
      · rw [none]
        exact ⟨.nil, by simp⟩
      · rw [none, List.map_nil, List.append_nil]
        exact orderly.serving.holds
  | false =>
      have apart : Database.Apart (k.rows ++ (k.added fresh batch).map Link.toRow) :=
        apart_added orderly.distinct.apart
      have ids : Database.Unborne k.rows (k.added fresh batch) ↔ _ :=
        Database.unborne_iff orderly.distinct.ids
      have same : Database.addLinks k.rows
          (((LinkIndex.ofMap (linkMapOf (rowsInTheWay k.reads k.rows fresh batch))).insertBatch
            fresh batch).created.map Link.toRow)
          = Database.addLinks k.rows ((k.added fresh batch).map Link.toRow) :=
        addLinks_judged k fresh batch
      rw [saveBatch_eq orderly.serving.holds fresh blank]
      simp only [same]
      by_cases unborne : Database.Unborne k.rows (k.added fresh batch)
      · rw [Database.addLinks_of_apart apart (ids.mp unborne)]
        exact .stored unborne ⟨orderly.serving.isOpen, rfl⟩
      · rw [Database.addLinks_of_borne apart orderly.distinct.ids (mt ids.mpr unborne)]
        exact .clash unborne

/-! ### Calls -/

/-- **No call stores a value of a unique column twice.** -/
theorem Orderly.perform (orderly : k.Orderly) (call : KeeperCall) :
    (call.perform k).2.Orderly := by
  have holds := orderly.serving.holds
  cases call with
  | save fresh key link =>
      have saving := saving holds (fun _ => fresh) (key, link)
      change (save fresh key link k).2.Orderly
      generalize save fresh key link k = result at saving ⊢
      cases saving with
      | created free unborne =>
          exact Holds.orderly ⟨holds.isOpen, rfl⟩ (orderly.distinct.concat free unborne)
      | existing => exact orderly
      | clash => exact orderly
  | saveUser fresh email user =>
      exact (saveUser_holds holds fresh email user).orderly orderly.distinct
  | saveBatch fresh batch =>
      have saving := batchSaving orderly fresh batch
      change (saveBatch fresh batch k).2.Orderly
      generalize saveBatch fresh batch k = result at saving ⊢
      cases saving with
      | stored unborne after =>
          exact after.orderly ⟨apart_added orderly.distinct.apart,
            (Database.unborne_iff orderly.distinct.ids).mp unborne⟩
      | clash => exact orderly
  | updateBatch requests =>
      have ids : (k.rows.map (·.id)).Nodup := List.pairwise_map.mpr orderly.distinct.ids
      change (updateBatch requests k).2.Orderly
      rw [updateBatch_eq holds ids requests]
      exact Holds.orderly ⟨holds.isOpen, rfl⟩ (orderly.distinct.marked _)
  | load =>
      change (load k).2.Orderly
      unfold load
      split <;> exact orderly
  | loadUsers =>
      change (loadUsers k).2.Orderly
      unfold loadUsers
      split <;> exact orderly
  | countLinks =>
      change (countLinks k).2.Orderly
      unfold countLinks
      split
      · exact orderly
      · split <;> exact ⟨⟨orderly.serving.isOpen, orderly.serving.links⟩, orderly.distinct⟩
  | countUsers =>
      change (countUsers k).2.Orderly
      unfold countUsers
      split
      · exact orderly
      · split <;> exact ⟨⟨orderly.serving.isOpen, orderly.serving.links⟩, orderly.distinct⟩

/-- A database in working order, empty at first, after these calls. -/
def reached (backend : String) (reads : ReadOrder) (calls : List KeeperCall) : DatabaseKeeper :=
  calls.foldl (fun k call => (call.perform k).2) { backend := backend, reads := reads }

theorem orderly_reached (backend : String) (reads : ReadOrder) (calls : List KeeperCall) :
    (reached backend reads calls).Orderly :=
  foldl_of_step (fun _ call orderly => orderly.perform call)
    ⟨⟨rfl, Option.some_ne_none _⟩, Database.distinct_nil⟩ calls

/-! ### Reports -/

/-- A report says what a batch did to the rows. -/
structure Truthful (fresh : String → String) (batch : LinkMap) (before after : List LinkRow)
    (report : BatchReport) : Prop where
  /-- As many rows came in as the report counts. -/
  counted : after.length = before.length + report.inserted
  /-- An entry that the report does not name has its row. -/
  stored : ∀ entry ∈ batch.toList, (∀ holder, (entry.1, holder) ∉ report.skipped) →
    (entryLink fresh entry).toRow ∈ after
  /-- An entry that it names is named with a stored row that has its address or its key. -/
  skipped : ∀ skip ∈ report.skipped, ∃ link, (skip.1, link) ∈ batch.toList ∧
    ∃ row ∈ after, row.toLink = skip.2.toRow.toLink ∧
      (row.originalUrl = link.originalUrl ∨ row.key = (entryLink fresh (skip.1, link)).key)

/-- A batch succeeds, and its report says what it did. -/
def Honours (k : DatabaseKeeper) (fresh : String → String) (batch : LinkMap) : Prop :=
  ∃ report after, Keeper.saveBatch fresh batch k = (.ok report, after) ∧
    Truthful fresh batch k.rows after.rows report

/-- A link is judged to be stored although a row leads to its address. -/
def Overlooks (k : DatabaseKeeper) (fresh : String → String) (batch : LinkMap) : Prop :=
  ∃ link ∈ (k.judged fresh batch).created, Database.leadsTo k.rows link.originalUrl = true

theorem added_eq_of_not_overlooks (sees : ¬ k.Overlooks fresh batch) :
    k.added fresh batch = (k.judged fresh batch).created := by
  refine List.filter_eq_self.mpr fun link mem => ?_
  cases led : Database.leadsTo k.rows link.originalUrl with
  | true => exact absurd ⟨link, mem, led⟩ sees
  | false => rfl

theorem toLink_toRow_toLink (row : LinkRow) : row.toLink.toRow.toLink = row.toLink := by
  obtain ⟨id, shortUrl, originalUrl, owner, deleted⟩ := row
  simp [LinkRow.toLink, Link.toRow, Option.filter_filter]

/-- A batch that overlooks nothing is reported truthfully. -/
theorem truthful_judged (k : DatabaseKeeper) (fresh : String → String) (batch : LinkMap) :
    Truthful fresh batch k.rows
      (k.rows ++ (k.judged fresh batch).created.map Link.toRow) (k.judged fresh batch).report where
  counted := by
    rw [List.length_append, List.length_map, judged, LinkIndex.insertBatch,
      LinkIndex.insertEntries_inserted]
  stored entry mem stays := by
    have created := (k.judged_creates fresh batch).mem_iff.mpr ⟨entry, mem, stays, rfl⟩
    exact List.mem_append_right _ (List.mem_map_of_mem created)
  skipped skip mem := by
    have filed := k.judged_filed fresh batch
    obtain ⟨found, link, among, shares⟩ := filed.skipped skip mem
    refine ⟨link, among, ?_⟩
    rcases filed.added _ _ found with old | ⟨-, entry, entryMem, own, stays⟩
    · obtain ⟨row, stored, same⟩ := of_indexFor old
      refine ⟨row, List.mem_append_left _ stored, ?_, ?_⟩
      · rw [← same, toLink_toRow_toLink]
      · rw [← same] at shares
        exact shares
    · have created := (k.judged_creates fresh batch).mem_iff.mpr ⟨entry, entryMem, stays, own⟩
      exact ⟨skip.2.toRow, List.mem_append_right _ (List.mem_map_of_mem created), rfl, shares⟩

/-- **A batch succeeds and is reported truthfully** exactly when it overlooks no row and its new
links bring identities that nobody bears. -/
theorem Orderly.honours_iff (orderly : k.Orderly) (fresh : String → String) (batch : LinkMap) :
    k.Honours fresh batch ↔
      ¬ k.Overlooks fresh batch ∧ Database.Unborne k.rows (k.judged fresh batch).created := by
  have saving := batchSaving orderly fresh batch
  unfold Honours
  change (∃ report after, saveBatch fresh batch k = (.ok report, after) ∧ _) ↔ _
  generalize saveBatch fresh batch k = result at saving ⊢
  constructor
  · rintro ⟨report, after, rfl, truthful⟩
    cases saving with
    | stored unborne holds =>
        have counted := truthful.counted
        rw [holds.rows_eq, List.length_append, List.length_map, judged, LinkIndex.insertBatch,
          LinkIndex.insertEntries_inserted] at counted
        have all : k.added fresh batch = (k.judged fresh batch).created :=
          List.filter_sublist.eq_of_length (Nat.add_left_cancel counted)
        refine ⟨?_, all ▸ unborne⟩
        rintro ⟨link, mem, led⟩
        rw [← all] at mem
        simpa [led] using (List.mem_filter.mp mem).2
  · rintro ⟨sees, unborne⟩
    have all := added_eq_of_not_overlooks sees
    cases saving with
    | @stored _ after holds =>
        refine ⟨_, after, rfl, ?_⟩
        rw [holds.rows_eq, all]
        exact k.truthful_judged fresh batch
    | clash borne => exact absurd (all ▸ unborne) borne

/-- Where no two rows share a key, nothing is overlooked. -/
theorem not_overlooks_of_keys
    (keys : ∀ row ∈ k.rows, ∀ twin ∈ k.rows, row.key = twin.key → row = twin)
    (fresh : String → String) (batch : LinkMap) : ¬ k.Overlooks fresh batch := by
  rintro ⟨link, mem, led⟩
  obtain ⟨row, stored, leads⟩ := Database.leadsTo_iff.mp led
  obtain ⟨entry, among, stays, rfl⟩ := (k.judged_creates fresh batch).mem_iff.mp mem
  obtain ⟨-, unled, -⟩ := (k.judged_filed fresh batch).stored entry among stays
  rw [LinkIndex.entryLink_originalUrl] at leads
  have found : row ∈ rowsInTheWay k.reads k.rows fresh batch :=
    mem_rowsInTheWay.mpr ⟨stored, entry, among, .inl leads⟩
  refine unled ⟨row.key, row.toLink, ?_, leads⟩
  rw [indexFor, LinkIndex.ofMap, LinkIndex.byKey_ofList (.refl _), getElem?_linkMapOf]
  · exact ⟨row, found, rfl, rfl⟩
  · exact fun r mem twin twinMem =>
      keys r (mem_rowsInTheWay.mp mem).1 twin (mem_rowsInTheWay.mp twinMem).1

/-- **After any sequence of calls** a batch succeeds and is reported truthfully exactly when it
overlooks no row and its new links bring identities that nobody bears. -/
theorem honours_reached_iff (backend : String) (reads : ReadOrder) (calls : List KeeperCall)
    (fresh : String → String) (batch : LinkMap) :
    (reached backend reads calls).Honours fresh batch ↔
      ¬ (reached backend reads calls).Overlooks fresh batch ∧
        Database.Unborne (reached backend reads calls).rows
          ((reached backend reads calls).judged fresh batch).created :=
  (orderly_reached backend reads calls).honours_iff fresh batch

/-! ### A batch that overlooks a row -/

/-- Two links of one key, of which the database takes both. -/
def hidingCalls : List KeeperCall :=
  [.save "1" "abc" KeeperPair.bareText, .save "2" "x" KeeperPair.fullText]

/-- The second row hides the first from the index that judges a batch. -/
def hidden : DatabaseKeeper := reached "sqlite" .indexed hidingCalls

/-- A batch to the addresses of both. -/
def bothAgain : LinkMap := .ofList
  [("x", ({ shortUrl := "", originalUrl := "u1" } : Link)),
    ("y", ({ shortUrl := "", originalUrl := "u2" } : Link))]

/-- A list that fits into one part. -/
theorem parts_of_length {α : Type} {size : Nat} {items : List α} (filled : items ≠ [])
    (fits : items.length ≤ size) : parts size items = [items] := by
  cases items with
  | nil => exact absurd rfl filled
  | cons x rest =>
      have fits : rest.length ≤ size - 1 := by
        rw [List.length_cons] at fits
        omega
      rw [parts, List.take_of_length_le fits, List.drop_of_length_le fits, parts]

theorem reads_hidden : hidden.reads = .indexed := rfl

theorem rowsInTheWay_bothAgain :
    rowsInTheWay hidden.reads hidden.rows id bothAgain = hidden.rows := by
  have entries : bothAgain.toList =
      [("x", { shortUrl := "", originalUrl := "u1" }),
        ("y", { shortUrl := "", originalUrl := "u2" })] := by decide +kernel
  have rows : hidden.rows =
      [⟨"1", "abc", "u1", none, false⟩, ⟨"2", "http://h.io/abc", "u2", none, false⟩] := by
    decide +kernel
  have sorted := List.mergeSort_of_pairwise
    (show hidden.rows.Pairwise fun a b => decide (a.originalUrl ≤ b.originalUrl) = true by
      rw [rows]
      decide)
  rw [rows] at sorted
  rw [reads_hidden, rowsInTheWay, ReadOrder.indexed]
  dsimp only
  rw [entries, rows, parts_of_length (List.cons_ne_nil _ _) (by decide)]
  simp [Database.conflictingAll, ReadOrder.byColumns, List.partition_eq_filter_filter, sorted]

/-- The report counts one link as inserted, although both entries lead to addresses of rows and
nothing comes in. -/
theorem bothAgain_miscounted :
    (∃ after, saveBatch id bothAgain hidden
        = (.ok ⟨1, [("y", KeeperPair.fullText.withId "2")]⟩, after) ∧ after.rows = hidden.rows) ∧
      ¬ hidden.Honours id bothAgain := by
  have report : (hidden.judged id bothAgain).report
      = ⟨1, [("y", KeeperPair.fullText.withId "2")]⟩ := by
    rw [judged, indexFor, rowsInTheWay_bothAgain]
    decide +kernel
  have nothing : hidden.added id bothAgain = [] := by
    rw [added, judged, indexFor, rowsInTheWay_bothAgain]
    decide +kernel
  have saved : ∃ after, saveBatch id bothAgain hidden
      = (.ok ⟨1, [("y", KeeperPair.fullText.withId "2")]⟩, after) ∧ after.rows = hidden.rows := by
    have saving := batchSaving (orderly_reached "sqlite" .indexed hidingCalls) id bothAgain
    rw [← hidden] at saving
    generalize saveBatch id bothAgain hidden = result at saving ⊢
    cases saving with
    | @stored _ after holds =>
        refine ⟨after, by rw [report], ?_⟩
        rw [holds.rows_eq, nothing, List.map_nil, List.append_nil]
    | clash borne =>
        rw [nothing] at borne
        exact absurd ⟨.nil, by simp⟩ borne
  refine ⟨saved, ?_⟩
  rintro ⟨report, after, answered, truthful⟩
  obtain ⟨after, saved, rows⟩ := saved
  cases saved.symm.trans answered
  have counted := truthful.counted
  rw [rows] at counted
  exact absurd counted (by simp)

end DatabaseKeeper

end ShortLinks
