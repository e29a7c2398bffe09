import ShortLinks.Keeper.Database
import ShortLinks.Proofs.Keeper.LinkIndex

/-!
The rows of the links, statement by statement.

* `save_eq`, `Saving`, `saving` — a link is stored in a new row, or its row would break a unique
  column: then the answer is the row with its address, else the row with its short link, and a
  fault if only the identity is taken.
* `mem_rowsInTheWay` — the rows that a batch reads back, in however many statements, are those with
  the address or the short link of one of its entries.
* `getElem?_linkMapOf` — where rows of one key are equal, the table of rows holds each of them.
* `updateBatch_eq` — where identities are distinct, a deletion in however many transactions marks
  the rows that one of its pairs asks for.
-/

namespace ShortLinks

@[simp] theorem Link.toRow_id (l : Link) : l.toRow.id = l.id := rfl

@[simp] theorem Link.toRow_shortUrl (l : Link) : l.toRow.shortUrl = l.shortUrl := rfl

@[simp] theorem Link.toRow_originalUrl (l : Link) : l.toRow.originalUrl = l.originalUrl := rfl

@[simp] theorem LinkRow.toLink_key (r : LinkRow) : r.toLink.key = r.key := rfl

namespace Database

variable {rows : List LinkRow} {row : LinkRow} {url short : String}

/-! ### Adding and reading back -/

theorem addLink_of_free
    (free : ∀ r ∈ rows, r.originalUrl ≠ row.originalUrl ∧ r.shortUrl ≠ row.shortUrl)
    (unborne : ∀ r ∈ rows, r.id ≠ row.id) : addLink rows row = .ok (rows ++ [row]) := by
  have url : rows.any (·.originalUrl = row.originalUrl) = false := by
    simpa using fun r mem => (free r mem).1
  have short : rows.any (·.shortUrl = row.shortUrl) = false := by
    simpa using fun r mem => (free r mem).2
  have id : rows.any (·.id = row.id) = false := by simpa using unborne
  simp [addLink, url, short, id]

/-- A row with a new address and a new short link, but an identity that is borne, breaks the column
of identities. -/
theorem addLink_of_borne
    (free : ∀ r ∈ rows, r.originalUrl ≠ row.originalUrl ∧ r.shortUrl ≠ row.shortUrl)
    (borne : ∃ r ∈ rows, r.id = row.id) : addLink rows row = .error .linkId := by
  have url : rows.any (·.originalUrl = row.originalUrl) = false := by
    simpa using fun r mem => (free r mem).1
  have short : rows.any (·.shortUrl = row.shortUrl) = false := by
    simpa using fun r mem => (free r mem).2
  have id : rows.any (·.id = row.id) = true := by simpa using borne
  simp [addLink, url, short, id]

theorem addLink_of_taken
    (taken : ∃ r ∈ rows, r.originalUrl = row.originalUrl ∨ r.shortUrl = row.shortUrl) :
    ∃ clash, addLink rows row = .error clash := by
  unfold addLink
  split
  · exact ⟨_, rfl⟩
  · next noUrl =>
      obtain ⟨r, mem, url | short⟩ := taken
      · exact absurd (List.any_eq_true.mpr ⟨r, mem, by simpa using url⟩) noUrl
      · rw [if_pos (List.any_eq_true.mpr ⟨r, mem, by simpa using short⟩)]
        exact ⟨_, rfl⟩

theorem conflicting?_eq_none_iff :
    conflicting? rows url short = none ↔
      ∀ r ∈ rows, r.originalUrl ≠ url ∧ r.shortUrl ≠ short := by
  have nowhere : conflicting? rows url short = none ↔
      rows.find? (·.originalUrl = url) = none ∧ rows.find? (·.shortUrl = short) = none := by
    unfold conflicting?
    cases rows.find? (·.originalUrl = url) <;> simp
  simp only [nowhere, List.find?_eq_none, decide_eq_true_eq, forall_and]

/-- The row in the way has the address, or else the short link. -/
theorem of_conflicting? (found : conflicting? rows url short = some row) :
    row ∈ rows ∧ (row.originalUrl = url ∨
      row.shortUrl = short ∧ ∀ other ∈ rows, other.originalUrl ≠ url) := by
  unfold conflicting? at found
  cases byUrl : rows.find? (·.originalUrl = url) with
  | some holder =>
      rw [byUrl] at found
      obtain rfl : holder = row := by simpa using found
      exact ⟨List.mem_of_find?_eq_some byUrl, .inl (by simpa using List.find?_some byUrl)⟩
  | none =>
      rw [byUrl] at found
      have byShort : rows.find? (·.shortUrl = short) = some row := by simpa using found
      exact ⟨List.mem_of_find?_eq_some byShort,
        .inr ⟨by simpa using List.find?_some byShort, by simpa using byUrl⟩⟩

/-- The addresses and the short links of rows are distinct. -/
def Apart (rows : List LinkRow) : Prop :=
  rows.Pairwise fun r other => r.originalUrl ≠ other.originalUrl ∧ r.shortUrl ≠ other.shortUrl

theorem addLinks_of_apart {new : List LinkRow} (apart : Apart (rows ++ new))
    (ids : (rows ++ new).Pairwise (·.id ≠ ·.id)) : addLinks rows new = .ok (rows ++ new) := by
  induction new generalizing rows with
  | nil => rw [addLinks, List.append_nil]
  | cons row rest ih =>
      have free := fun r mem => (List.pairwise_append.mp apart).2.2 r mem row List.mem_cons_self
      have unborne := fun r mem => (List.pairwise_append.mp ids).2.2 r mem row List.mem_cons_self
      rw [List.append_cons] at apart ids ⊢
      simp only [addLinks, addLink_of_free free unborne]
      exact ih apart ids

/-- Rows that are apart clash in an identity if at all. -/
theorem addLinks_of_borne {new : List LinkRow} (apart : Apart (rows ++ new))
    (before : rows.Pairwise (·.id ≠ ·.id)) (borne : ¬ (rows ++ new).Pairwise (·.id ≠ ·.id)) :
    addLinks rows new = .error .linkId := by
  induction new generalizing rows with
  | nil => exact absurd (by rwa [List.append_nil]) borne
  | cons row rest ih =>
      have free := fun r mem => (List.pairwise_append.mp apart).2.2 r mem row List.mem_cons_self
      rw [List.append_cons] at apart borne
      by_cases first : ∃ r ∈ rows, r.id = row.id
      · simp only [addLinks, addLink_of_borne free first]
      · have unborne : ∀ r ∈ rows, r.id ≠ row.id := fun r mem same => first ⟨r, mem, same⟩
        simp only [addLinks, addLink_of_free free unborne]
        refine ih apart (List.pairwise_append.mpr ⟨before, List.pairwise_singleton _ _, ?_⟩) borne
        intro r mem other only
        rw [List.mem_singleton.mp only]
        exact unborne r mem

theorem mem_conflictingAll {urls shorts : List String} :
    row ∈ conflictingAll rows urls shorts ↔
      row ∈ rows ∧ (row.originalUrl ∈ urls ∨ row.shortUrl ∈ shorts) := by
  simp [conflictingAll]

/-! ### Marks -/

/-- A row after a deletion that asks for these pairs. -/
def marked (pairs : List (String × String)) (r : LinkRow) : LinkRow :=
  if isAskedFor pairs r then { r with deleted := true } else r

@[simp] theorem marked_id (pairs : List (String × String)) : (marked pairs row).id = row.id := by
  unfold marked
  split <;> rfl

@[simp] theorem marked_originalUrl (pairs : List (String × String)) :
    (marked pairs row).originalUrl = row.originalUrl := by
  unfold marked
  split <;> rfl

@[simp] theorem marked_shortUrl (pairs : List (String × String)) :
    (marked pairs row).shortUrl = row.shortUrl := by
  unfold marked
  split <;> rfl

theorem marked_nil : marked [] = id := by
  funext r
  unfold marked isAskedFor
  cases r.owner <;> simp

/-- Marks add up: a mark changes nothing that a deletion asks for. -/
theorem marked_append (first later : List (String × String)) :
    marked (first ++ later) = marked later ∘ marked first := by
  funext r
  have asks (deleted : Bool) :
      isAskedFor later { r with deleted := deleted } = isAskedFor later r := rfl
  have either : isAskedFor (first ++ later) r = (isAskedFor first r || isAskedFor later r) := by
    unfold isAskedFor
    cases r.owner <;> simp
  cases asked : isAskedFor first r <;> simp [marked, either, asked, asks]

/-- Where identities are distinct, marking by identity marks the rows that are asked for. -/
theorem markRows_of_ids (ids : (rows.map (·.id)).Nodup) (pairs : List (String × String)) :
    markRows rows pairs = rows.map (marked pairs) := by
  refine List.map_congr_left fun r mem => ?_
  have asked : ((rows.filter fun r => !r.deleted && isAskedFor pairs r).map (·.id)).contains r.id
      = true ↔ r.deleted = false ∧ isAskedFor pairs r = true := by
    simp only [List.contains_iff_mem, List.mem_map, List.mem_filter, Bool.and_eq_true,
      Bool.not_eq_true']
    constructor
    · rintro ⟨other, ⟨otherMem, wanted⟩, same⟩
      rwa [List.inj_on_of_nodup_map ids otherMem mem same] at wanted
    · exact fun wanted => ⟨r, ⟨mem, wanted⟩, rfl⟩
  rw [marked]
  by_cases wanted : isAskedFor pairs r = true
  · cases deleted : r.deleted with
    | false => rw [if_pos (asked.mpr ⟨deleted, wanted⟩), if_pos wanted]
    | true =>
        have marked : { r with deleted := true } = r := by rw [← deleted]
        rw [marked, ite_self, ite_self]
  · rw [if_neg fun among => wanted (asked.mp among).2, if_neg wanted]

theorem foldl_markRows (ids : (rows.map (·.id)).Nodup) (lists : List (List (String × String))) :
    lists.foldl markRows rows = rows.map (marked lists.flatten) := by
  induction lists generalizing rows with
  | nil => rw [List.foldl_nil, List.flatten_nil, marked_nil, List.map_id]
  | cons first rest ih =>
      rw [List.foldl_cons, markRows_of_ids ids, ih, List.map_map, List.flatten_cons, marked_append]
      rwa [List.map_map, show (·.id) ∘ marked first = (·.id) from funext fun _ => marked_id first]

end Database

namespace DatabaseKeeper

open LinkIndex (entryLink)

variable {rows : List LinkRow} {k : DatabaseKeeper}

/-- A connection that is open, with these rows of links. -/
structure Holds (k : DatabaseKeeper) (rows : List LinkRow) : Prop where
  isOpen : k.isOpen = true
  links : k.database.links = some rows

theorem Holds.linkRows (holds : k.Holds rows) : k.linkRows = .ok rows := by
  simp [DatabaseKeeper.linkRows, tableOf, holds.isOpen, holds.links]

/-- What saving a link does. -/
inductive Saving (k : DatabaseKeeper) (rows : List LinkRow) (own : Link) :
    Except Fault (Inserted Link) × DatabaseKeeper → Prop where
  /-- No row has the address, the short link or the identity; the link gets one. -/
  | created (free : ∀ r ∈ rows, r.originalUrl ≠ own.originalUrl ∧ r.shortUrl ≠ own.shortUrl)
      (unborne : ∀ r ∈ rows, r.id ≠ own.id) :
      Saving k rows own
        (.ok (.created own), (k.withLinks (rows ++ [own.toRow])).forgetCounts)
  /-- This row has the address, or else the short link. -/
  | existing {row : LinkRow} (stored : row ∈ rows)
      (inWay : row.originalUrl = own.originalUrl ∨
        row.shortUrl = own.shortUrl ∧ ∀ r ∈ rows, r.originalUrl ≠ own.originalUrl) :
      Saving k rows own (.ok (.existing row.toLink), k)
  /-- Only the identity is taken. -/
  | clash (free : ∀ r ∈ rows, r.originalUrl ≠ own.originalUrl ∧ r.shortUrl ≠ own.shortUrl)
      (borne : ∃ r ∈ rows, r.id = own.id) {message : String} :
      Saving k rows own (.error ⟨.conflict, message⟩, k)

/-- What saving a link answers: the row in the way if there is one. -/
theorem save_eq (holds : k.Holds rows) (fresh : String → String) (entry : String × Link)
    {own : Link} (filled : entryLink fresh entry = own) :
    save (fresh entry.1) entry.1 entry.2 k =
      match Database.conflicting? rows own.originalUrl own.shortUrl with
      | some row => (.ok (.existing row.toLink), k)
      | none =>
          if rows.any (·.id = own.id) then
            (.error ⟨.conflict, s!"短链接已存在: {own.shortUrl}"⟩, k)
          else (.ok (.created own), (k.withLinks (rows ++ [own.toRow])).forgetCounts) := by
  unfold entryLink at filled
  simp only [save, filled, holds.linkRows]
  cases conflict : Database.conflicting? rows own.originalUrl own.shortUrl with
  | some row =>
      obtain ⟨stored, inWay⟩ := Database.of_conflicting? conflict
      obtain ⟨clash, refused⟩ : ∃ clash, Database.addLink rows own.toRow = .error clash :=
        Database.addLink_of_taken ⟨row, stored, inWay.imp_right And.left⟩
      rw [refused]
  | none =>
      have free := Database.conflicting?_eq_none_iff.mp conflict
      by_cases borne : rows.any (·.id = own.id) = true
      · have refused : Database.addLink rows own.toRow = .error .linkId :=
          Database.addLink_of_borne free (by simpa using borne)
        rw [refused, if_pos borne]
      · have added : Database.addLink rows own.toRow = .ok (rows ++ [own.toRow]) :=
          Database.addLink_of_free free (by simpa using borne)
        rw [added, if_neg borne]

theorem saving (holds : k.Holds rows) (fresh : String → String) (entry : String × Link) :
    Saving k rows (entryLink fresh entry) (save (fresh entry.1) entry.1 entry.2 k) := by
  rw [save_eq holds fresh entry rfl]
  generalize entryLink fresh entry = own
  cases conflict : Database.conflicting? rows own.originalUrl own.shortUrl with
  | some row =>
      obtain ⟨stored, inWay⟩ := Database.of_conflicting? conflict
      exact .existing stored inWay
  | none =>
      have free := Database.conflicting?_eq_none_iff.mp conflict
      dsimp only
      split
      · next borne => exact .clash free (by simpa using borne)
      · next unborne => exact .created free (by simpa using unborne)

/-! ### Batches -/

theorem flatten_parts {α : Type} (size : Nat) (items : List α) :
    (parts size items).flatten = items := by
  fun_induction parts size items with
  | case1 => rfl
  | case2 x rest ih => rw [List.flatten_cons, ih, List.cons_append, List.take_append_drop]

/-- Does a link have the address or the short link of one of the entries? -/
def InTheWay (entries : List (String × Link)) (link : Link) : Prop :=
  ∃ entry ∈ entries, link.originalUrl = entry.2.originalUrl ∨
    link.shortUrl = (entry.2.fillShortUrl entry.1).shortUrl

/-- Whatever the order, the same rows are read back. -/
theorem mem_rowsInTheWay {reads : ReadOrder} {fresh : String → String} {batch : LinkMap}
    {row : LinkRow} :
    row ∈ rowsInTheWay reads rows fresh batch ↔ row ∈ rows ∧ InTheWay batch.toList row.toLink := by
  have part_iff (part : List (String × Link)) :
      row ∈ reads.rows fresh part (Database.conflictingAll rows (part.map (·.2.originalUrl))
          (part.map fun entry => (entry.2.fillShortUrl entry.1).shortUrl)) ↔
        row ∈ rows ∧ InTheWay part row.toLink := by
    simp only [(reads.rows_perm fresh part _).mem_iff, Database.mem_conflictingAll, InTheWay,
      LinkRow.toLink, List.mem_map]
    grind
  simp only [rowsInTheWay, List.mem_flatMap, part_iff]
  constructor
  · rintro ⟨part, among, stored, entry, mem, way⟩
    refine ⟨stored, entry, (reads.entries_perm fresh batch).mem_iff.mp ?_, way⟩
    rw [← flatten_parts statementSize (reads.entries fresh batch)]
    exact List.mem_flatten.mpr ⟨part, among, mem⟩
  · rintro ⟨stored, entry, mem, way⟩
    rw [← (reads.entries_perm fresh batch).mem_iff,
      ← flatten_parts statementSize (reads.entries fresh batch)] at mem
    obtain ⟨part, among, mem⟩ := List.mem_flatten.mp mem
    exact ⟨part, among, stored, entry, mem, way⟩

theorem linkMapOf_eq_insertAll (rows : List LinkRow) :
    linkMapOf rows = LinkMap.insertAll ∅ (rows.map fun row => (row.key, row.toLink)) := by
  simp only [linkMapOf, LinkMap.insertAll, List.foldl_map, LinkRow.toLink_key]

theorem of_linkMapOf {key : String} {link : Link} (found : (linkMapOf rows)[key]? = some link) :
    ∃ row ∈ rows, row.key = key ∧ row.toLink = link := by
  rw [linkMapOf_eq_insertAll] at found
  rcases LinkMap.of_getElem?_insertAll found with nowhere | mem
  · simp at nowhere
  · obtain ⟨row, mem, same⟩ := List.mem_map.mp mem
    exact ⟨row, mem, Prod.mk.inj same⟩

/-- Where rows of one key are equal, the table of rows holds each of them. -/
theorem getElem?_linkMapOf {key : String} {link : Link}
    (agree : ∀ row ∈ rows, ∀ twin ∈ rows, row.key = twin.key → row = twin) :
    (linkMapOf rows)[key]? = some link ↔ ∃ row ∈ rows, row.key = key ∧ row.toLink = link := by
  constructor
  · exact of_linkMapOf
  · rintro ⟨row, mem, rfl, rfl⟩
    rw [linkMapOf_eq_insertAll]
    refine LinkMap.getElem?_insertAll_of_agree (row.key, row.toLink) ?_
      (List.mem_map_of_mem mem)
    rintro other otherMem same
    obtain ⟨twin, twinMem, rfl⟩ := List.mem_map.mp otherMem
    rw [agree twin twinMem row mem same]

theorem saveBatch_eq (holds : k.Holds rows) (fresh : String → String) {batch : LinkMap}
    (filled : batch.isEmpty = false) :
    saveBatch fresh batch k =
      let part := LinkIndex.ofMap (linkMapOf (rowsInTheWay k.reads rows fresh batch))
      match Database.addLinks rows ((part.insertBatch fresh batch).created.map Link.toRow) with
      | .ok more =>
          (.ok (part.insertBatch fresh batch).report, (k.withLinks more).forgetCounts)
      | .error clash => failed "批量插入失败" clash.failure k := by
  have nonempty : ¬ batch.isEmpty = true := Bool.eq_false_iff.mp filled
  have serves : ¬ (!k.isOpen) = true := by simp [holds.isOpen]
  rewrite [saveBatch, if_neg nonempty, if_neg serves, holds.linkRows]
  rfl

/-! ### Deletions -/

theorem Holds.withLinks_self (holds : k.Holds rows) : k.withLinks rows = k := by
  rw [withLinks, ← holds.links]

/-- Where identities are distinct, a deletion in however many transactions marks what its pairs ask
for. -/
theorem updateBatch_eq (holds : k.Holds rows) (ids : (rows.map (·.id)).Nodup)
    (requests : List DeletionRequest) :
    updateBatch requests k
      = (.ok (), k.withLinks (rows.map (Database.marked (keyPairs requests)))) := by
  simp only [updateBatch, holds.linkRows, Database.foldl_markRows ids, flatten_parts]
  split
  · next blank =>
      rw [List.isEmpty_iff.mp blank, Database.marked_nil, List.map_id, holds.withLinks_self]
  · rfl

end DatabaseKeeper

end ShortLinks
