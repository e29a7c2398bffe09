import ShortLinks.Proofs.Store.PlainTexts

/-!
A store over a database, closed and opened again between its writes.

* `Reloads` — loading the links anew would give the table.
* `BatchCall.LoadsBack`, `BatchCall.settle_eq_loaded_iff` — what a batch needs for that of the table
  and the rows before it, and why nothing less will do.
* `Write.LoadsBack` — what a write needs. A link needs that the row in its way is the one that its
  key reads, and if there is none that its owner is not the empty text.
* `Reflects` — the rows of a database and the table that they give back.
* `reloads_throughout_iff` — so the table is what would be loaded, after every step of a run without
  failures and with the store opened anew at any point, exactly when every write loads back.
* `reloads_throughout_of_plain` — every write does if each link is written as its key, no owner is
  the empty text and batches draw new identities.
-/

namespace ShortLinks

open LinkIndex (entryLink)
open LinkMap (Leads insertAll entriesOf)
open Store (named Withdrawn)

/-! ### Rows -/

namespace Database

variable {rows more : List LinkRow}

/-- Does a row lead to this address? -/
def leadsTo (rows : List LinkRow) (url : String) : Bool := rows.any (·.originalUrl = url)

theorem leadsTo_iff {url : String} :
    leadsTo rows url = true ↔ ∃ row ∈ rows, row.originalUrl = url := by
  simp [leadsTo]

/-- What adding a row does, as far as its address and its identity matter. -/
theorem addLink_cases (rows : List LinkRow) (row : LinkRow) :
    (addLink rows row = .ok (rows ++ [row]) ∧ leadsTo rows row.originalUrl = false ∧
        ∀ other ∈ rows, other.id ≠ row.id) ∨
      (addLink rows row = .error .linkOriginalUrl ∧ leadsTo rows row.originalUrl = true) ∨
      ∃ clash, addLink rows row = .error clash ∧ clash ≠ .linkOriginalUrl := by
  unfold addLink
  split
  · next led => exact .inr (.inl ⟨rfl, led⟩)
  · next unled =>
      split
      · exact .inr (.inr ⟨_, rfl, by decide⟩)
      · split
        · exact .inr (.inr ⟨_, rfl, by decide⟩)
        · next unborne => exact .inl ⟨rfl, Bool.eq_false_iff.mpr unled, by simpa using unborne⟩

/-- Of new rows to different addresses those come in to whose address no row leads. -/
theorem addLinks_ok {new : List LinkRow} (urls : (new.map (·.originalUrl)).Nodup)
    (ok : addLinks rows new = .ok more) :
    more = rows ++ new.filter fun row => !leadsTo rows row.originalUrl := by
  induction new generalizing rows with
  | nil =>
      cases ok
      simp
  | cons row rest ih =>
      rw [List.map_cons, List.nodup_cons] at urls
      rcases addLink_cases rows row with ⟨added, unled, -⟩ | ⟨left, led⟩ | ⟨clash, failed, other⟩
      · simp only [addLinks, added] at ok
        have same : (rest.filter fun later => !leadsTo (rows ++ [row]) later.originalUrl)
            = rest.filter fun later => !leadsTo rows later.originalUrl := by
          refine List.filter_congr fun later mem => ?_
          have apart : row.originalUrl ≠ later.originalUrl := fun same =>
            urls.1 (same ▸ List.mem_map_of_mem mem)
          simp [leadsTo, apart]
        rw [ih urls.2 ok, same, List.filter_cons_of_pos (by simp [unled]), List.append_assoc,
          List.singleton_append]
      · simp only [addLinks, left] at ok
        rw [ih urls.2 ok, List.filter_cons_of_neg (by simp [led])]
      · simp only [addLinks, failed] at ok
        cases clash <;> first | exact absurd rfl other | cases ok

/-- Adding rows keeps identities distinct. -/
theorem addLinks_ids {new : List LinkRow} (ids : (rows.map (·.id)).Nodup)
    (ok : addLinks rows new = .ok more) : (more.map (·.id)).Nodup := by
  induction new generalizing rows with
  | nil =>
      cases ok
      exact ids
  | cons row rest ih =>
      rcases addLink_cases rows row with ⟨added, -, unborne⟩ | ⟨left, -⟩ | ⟨clash, failed, other⟩
      · simp only [addLinks, added] at ok
        refine ih ?_ ok
        rw [List.map_append, List.map_singleton, List.nodup_append_comm, List.singleton_append,
          List.nodup_cons]
        exact ⟨by simpa using unborne, ids⟩
      · simp only [addLinks, left] at ok
        exact ih ids ok
      · simp only [addLinks, failed] at ok
        cases clash <;> first | exact absurd rfl other | cases ok

end Database

namespace DatabaseKeeper

variable {rows : List LinkRow}

/-- The entries that rows make in a table. -/
def rowEntries (rows : List LinkRow) : List (String × Link) :=
  rows.map fun row => (row.key, row.toLink)

theorem linkMapOf_append (rows more : List LinkRow) :
    linkMapOf (rows ++ more) = insertAll (linkMapOf rows) (rowEntries more) := by
  simp only [linkMapOf_eq_insertAll, insertAll, rowEntries, List.map_append, List.foldl_append]

/-- Something is read under the key of every row. -/
theorem linkMapOf_ne_none {row : LinkRow} (mem : row ∈ rows) :
    (linkMapOf rows)[row.key]? ≠ none := by
  rw [linkMapOf_eq_insertAll]
  refine LinkMap.getElem?_insertAll_ne_none ?_
  rw [List.map_map]
  exact List.mem_map_of_mem (f := fun row : LinkRow => row.key) mem

/-- What the table of rows leads to, a row leads to. -/
theorem leadsTo_of_leads {url : String} (leads : Leads (linkMapOf rows) url) :
    Database.leadsTo rows url = true := by
  obtain ⟨key, link, found, rfl⟩ := leads
  obtain ⟨row, mem, -, rfl⟩ := of_linkMapOf found
  exact Database.leadsTo_iff.mpr ⟨row, mem, rfl⟩

/-- Rows of links whose owners are not the empty text give these links back. -/
theorem rowEntries_toRow {links : List Link} (owners : ∀ link ∈ links, link.owner ≠ some "") :
    rowEntries (links.map Link.toRow) = entriesOf links := by
  rw [rowEntries, List.map_map, entriesOf]
  refine List.map_congr_left fun link mem => ?_
  exact Prod.ext rfl (toRow_toLink_eq_self_iff.mpr (owners link mem))

theorem linkMapOf_toRow {links : List Link} (owners : ∀ link ∈ links, link.owner ≠ some "") :
    linkMapOf (links.map Link.toRow) = insertAll ∅ (entriesOf links) := by
  rw [linkMapOf_eq_insertAll]
  exact congrArg (insertAll ∅) (rowEntries_toRow owners)

end DatabaseKeeper

open DatabaseKeeper (linkMapOf rowEntries)

/-! ### Batches -/

namespace BatchCall

variable {call : BatchCall} {rows : List LinkRow} {index : LinkIndex} {key : String} {link : Link}

/-- What the index that judges a batch knows of the rows: nothing else, and whatever has the text
and the address of an entry. -/
structure Judged (call : BatchCall) (rows : List LinkRow) (index : LinkIndex) : Prop where
  sound : index.Sound
  rowed : ∀ key : String, index.byKey[key]? ≠ none → (linkMapOf rows)[key]? ≠ none
  own : ∀ (key : String) (mine : Link), call.normal[key]? = some mine →
    (linkMapOf rows)[key]? = some mine → index.byKey[key]? ≠ none

theorem judged_indexFor (call : BatchCall) (k : DatabaseKeeper) :
    call.Judged k.rows (k.indexFor call.fresh call.normal) where
  sound := k.indexFor_sound call.fresh call.normal
  rowed key stands := by
    obtain ⟨link, found⟩ := Option.ne_none_iff_exists'.mp stands
    rw [DatabaseKeeper.indexFor, LinkIndex.ofMap, LinkIndex.byKey_ofList (.refl _)] at found
    obtain ⟨row, mem, rfl, -⟩ := DatabaseKeeper.of_linkMapOf found
    exact DatabaseKeeper.linkMapOf_ne_none (DatabaseKeeper.mem_rowsInTheWay.mp mem).1
  own key mine normal stands := by
    obtain ⟨row, mem, rfl, rfl⟩ := DatabaseKeeper.of_linkMapOf stands
    rw [DatabaseKeeper.indexFor, LinkIndex.ofMap, LinkIndex.byKey_ofList (.refl _)]
    refine DatabaseKeeper.linkMapOf_ne_none (DatabaseKeeper.mem_rowsInTheWay.mpr ⟨mem, ?_⟩)
    exact ⟨_, Std.ExtTreeMap.mem_toList_iff_getElem?_eq_some.mpr normal, .inl rfl⟩

/-- Does a batch store the entry of its normal form under a key? -/
def Stores (call : BatchCall) (index : LinkIndex) (key : String) (mine : Link) : Prop :=
  call.normal[key]? = some mine ∧ key ∉ (call.skipped index).map (·.1)

theorem Stores.not_withdrawn (stores : call.Stores index key link) (other : Link) :
    ¬ Withdrawn call.normal (call.skipped index) key other :=
  fun withdrawn => stores.2 withdrawn.requested.1

/-- What a batch stores, in order, are the entries that it does not skip. -/
theorem mem_created (sound : index.Sound) :
    link ∈ (call.filed index).created ↔ call.Stores index link.key link := by
  have creates := LinkIndex.insertEntries_creates call.fresh (LinkMap.keys_nodup call.normal) sound
  have stored : (call.filed index).created
      = LinkIndex.reported call.fresh call.normal.toList (call.filed index).report :=
    creates.stored
  rw [stored, LinkIndex.reported, List.mem_map]
  constructor
  · rintro ⟨⟨key, mine⟩, mem, rfl⟩
    obtain ⟨among, notSkipped⟩ := List.mem_filter.mp mem
    have normal : call.normal[key]? = some mine :=
      Std.ExtTreeMap.mem_toList_iff_getElem?_eq_some.mp among
    rw [entryLink_normal normal]
    exact (call.normal_keyed key mine normal).symm ▸ ⟨normal, of_decide_eq_true notSkipped⟩
  · rintro ⟨normal, notSkipped⟩
    refine ⟨(link.key, link), List.mem_filter.mpr ⟨?_, decide_eq_true notSkipped⟩,
      entryLink_normal normal⟩
    exact Std.ExtTreeMap.mem_toList_iff_getElem?_eq_some.mpr normal

/-- The links that a batch adds to rows: of what it stores, those to whose address no row leads. -/
def added (call : BatchCall) (index : LinkIndex) (rows : List LinkRow) : List Link :=
  (call.filed index).created.filter fun link => !Database.leadsTo rows link.originalUrl

theorem mem_added (sound : index.Sound) : link ∈ call.added index rows ↔
    call.Stores index link.key link ∧ Database.leadsTo rows link.originalUrl = false := by
  rw [added, List.mem_filter, mem_created sound, Bool.not_eq_true']

/-- No two stored entries share a key or an address. -/
theorem created_nodup (sound : index.Sound) :
    ((call.filed index).created.map Link.key).Nodup ∧
      ((call.filed index).created.map Link.originalUrl).Nodup := by
  have creates := LinkIndex.insertEntries_creates call.fresh (LinkMap.keys_nodup call.normal) sound
  have keys : ((call.filed index).created.map Link.key).Nodup := creates.distinct
  exact ⟨keys, LinkIndex.insertEntries_urls call.fresh (LinkMap.keys_nodup call.normal) sound⟩

/-- The table that would be loaded after a batch. -/
def loaded (call : BatchCall) (index : LinkIndex) (rows : List LinkRow) : LinkMap :=
  linkMapOf (rows ++ (call.added index rows).map Link.toRow)

section Loaded

variable (judged : call.Judged rows index)
include judged

/-- An added link would be loaded under its key. -/
theorem getElem?_loaded_of_added (stores : call.Stores index key link)
    (unled : Database.leadsTo rows link.originalUrl = false) :
    (call.loaded index rows)[key]? = some link.toRow.toLink := by
  obtain rfl := call.normal_keyed key link stores.1
  have mem := (mem_added judged.sound).mpr ⟨stores, unled⟩
  rw [loaded, DatabaseKeeper.linkMapOf_append]
  have keys : ((rowEntries ((call.added index rows).map Link.toRow)).map (·.1)).Nodup := by
    have created : ((call.filed index).created.map Link.key).Nodup :=
      (created_nodup judged.sound).1
    rw [rowEntries, List.map_map, List.map_map]
    exact created.sublist (List.filter_sublist.map _)
  have among : (link.key, link.toRow.toLink)
      ∈ rowEntries ((call.added index rows).map Link.toRow) := by
    rw [rowEntries, List.map_map]
    exact List.mem_map_of_mem (f := fun link : Link => (link.key, link.toRow.toLink)) mem
  exact LinkMap.getElem?_insertAll_of_mem keys among

/-- Under every other key the same is loaded as before. -/
theorem getElem?_loaded_of_not_added (other : ∀ mine, call.Stores index key mine →
      Database.leadsTo rows mine.originalUrl = true) :
    (call.loaded index rows)[key]? = (linkMapOf rows)[key]? := by
  rw [loaded, DatabaseKeeper.linkMapOf_append]
  refine LinkMap.getElem?_insertAll_of_notMem fun named => ?_
  obtain ⟨entry, mem, rfl⟩ := List.mem_map.mp named
  obtain ⟨row, rowMem, rfl⟩ := List.mem_map.mp mem
  obtain ⟨link, among, rfl⟩ := List.mem_map.mp rowMem
  obtain ⟨stores, unled⟩ := (mem_added judged.sound).mp among
  exact Bool.eq_false_iff.mp unled (other link stores)

/-- Under the key of a stored entry to whose address no row leads: the entry, unless the table has
something else there and no skipped entry names the stored one. -/
theorem getElem?_settle_of_unled (stores : call.Stores index key link)
    (unled : Database.leadsTo rows link.originalUrl = false) :
    (call.settle (linkMapOf rows) index)[key]?
      = if key ∈ named (call.skipped index) ∨ (linkMapOf rows)[key]? = none then some link
        else (linkMapOf rows)[key]? := by
  obtain ⟨-, -, present, sole⟩ := stored_normal judged.sound stores.1 stores.2
  have notLed : ¬ Leads (linkMapOf rows) link.originalUrl := fun leads =>
    Bool.eq_false_iff.mp unled (DatabaseKeeper.leadsTo_of_leads leads)
  refine Option.ext fun there => ?_
  rw [getElem?_settle judged.sound, and_iff_left (stores.not_withdrawn there)]
  by_cases isNamed : key ∈ named (call.skipped index)
  · rw [if_pos isNamed, if_pos (.inl isNamed), present]
  · rw [if_neg isNamed]
    cases stands : (linkMapOf rows)[key]? with
    | some old => simp [isNamed, call.merge_kept stands]
    | none =>
        have merged := (merge_or_named_of_stored judged.sound judged.rowed stores.1 stores.2 stands
          notLed).resolve_right isNamed
        rw [if_pos (.inr rfl), merged]

/-- Under the key of a stored entry the table keeps what it has exactly when no skipped entry names
the stored one and the merge does not let it in. -/
theorem getElem?_settle_of_stores (stores : call.Stores index key link) :
    (call.settle (linkMapOf rows) index)[key]? = (linkMapOf rows)[key]? ↔
      key ∉ named (call.skipped index) ∧
        ((linkMapOf rows)[key]? ≠ none ∨ Leads (linkMapOf rows) link.originalUrl) := by
  obtain ⟨free, -, present, sole⟩ := stored_normal judged.sound stores.1 stores.2
  have settled : (call.settle (linkMapOf rows) index)[key]?
      = if key ∈ named (call.skipped index) then some link
        else (call.merge (linkMapOf rows))[key]? := by
    refine Option.ext fun there => ?_
    rw [getElem?_settle judged.sound, and_iff_left (stores.not_withdrawn there), present]
  rw [settled]
  by_cases isNamed : key ∈ named (call.skipped index)
  · rw [if_pos isNamed]
    -- The index would have known the entry from its row.
    have other : (linkMapOf rows)[key]? ≠ some link := fun same =>
      judged.own key link stores.1 same free
    exact iff_of_false (Ne.symm other) fun both => both.1 isNamed
  · rw [if_neg isNamed]
    cases stands : (linkMapOf rows)[key]? with
    | some old => simp [isNamed, call.merge_kept stands]
    | none =>
        have notIn_iff : (call.merge (linkMapOf rows))[key]? = none ↔
            Leads (linkMapOf rows) link.originalUrl := by
          constructor
          · intro absent
            by_contra unled
            have merged := (merge_or_named_of_stored judged.sound judged.rowed stores.1 stores.2
              stands unled).resolve_right isNamed
            rw [absent] at merged
            cases merged
          · intro leads
            refine Option.eq_none_iff_forall_ne_some.mpr fun there found => ?_
            rcases of_merge found with old | ⟨-, mine, unled⟩
            · rw [stands] at old
              cases old
            · obtain rfl := Option.some.inj (stores.1.symm.trans mine)
              exact unled leads
        simp [isNamed, notIn_iff]

/-- Under every other key the table keeps what it has exactly when that is not withdrawn and a
skipped entry that names a link there names the same. -/
theorem getElem?_settle_of_not_stores (notStored : ∀ mine, ¬ call.Stores index key mine) :
    (call.settle (linkMapOf rows) index)[key]? = (linkMapOf rows)[key]? ↔
      (∀ old, (linkMapOf rows)[key]? = some old →
        ¬ Withdrawn call.normal (call.skipped index) key old) ∧
      ∀ skip ∈ call.skipped index, skip.2.key = key → (linkMapOf rows)[key]? = some skip.2 := by
  constructor
  · intro same
    have settled {old : Link} (stands : (linkMapOf rows)[key]? = some old) :=
      (getElem?_settle judged.sound call _ key old).mp (same.trans stands)
    refine ⟨fun old stands => (settled stands).2, ?_⟩
    rintro skip mem rfl
    have stored := call.holder_stored judged.sound skip mem
    have old : index.byKey[skip.2.key]? = some skip.2 :=
      (of_filed judged.sound stored).resolve_right fun ⟨_, mine, notSkipped⟩ =>
        notStored _ ⟨mine, notSkipped⟩
    obtain ⟨there, stands⟩ :=
      Option.ne_none_iff_exists'.mp (judged.rowed _ (old ▸ Option.some_ne_none _))
    have isNamed : skip.2.key ∈ named (call.skipped index) := List.mem_map_of_mem mem
    have now := (settled stands).1
    rw [if_pos isNamed, stored] at now
    exact stands.trans now.symm
  · rintro ⟨kept, holders⟩
    refine Option.ext fun there => ?_
    rw [getElem?_settle judged.sound]
    by_cases isNamed : key ∈ named (call.skipped index)
    · obtain ⟨skip, mem, rfl⟩ := List.mem_map.mp isNamed
      have stands := holders skip mem rfl
      rw [if_pos isNamed, call.holder_stored judged.sound skip mem, stands]
      exact and_iff_left_of_imp fun same => Option.some.inj same ▸ kept _ stands
    · rw [if_neg isNamed]
      cases stands : (linkMapOf rows)[key]? with
      | some old =>
          rw [call.merge_kept stands]
          exact and_iff_left_of_imp fun same => Option.some.inj same ▸ kept _ stands
      | none =>
          -- What the merge let in under a skipped key is withdrawn.
          refine iff_of_false ?_ (Option.some_ne_none there).symm
          rintro ⟨merged, stays⟩
          rcases of_merge merged with old | ⟨-, mine, -⟩
          · rw [stands] at old
            cases old
          · have requested : key ∈ (call.skipped index).map (·.1) := by
              by_contra notSkipped
              exact notStored there ⟨mine, notSkipped⟩
            exact stays
              ((Store.withdrawn_iff_of_notMem isNamed there).mpr ⟨requested, by simp [mine]⟩)

end Loaded

/-- What a batch needs of rows, of the table that they give and of the index that judges it, so that
the table afterwards is again the one that would be loaded. -/
structure LoadsBack (call : BatchCall) (rows : List LinkRow) (index : LinkIndex) : Prop where
  /-- Nothing in the table is withdrawn. -/
  kept : ∀ (key : String) (old : Link), (linkMapOf rows)[key]? = some old →
    ¬ Withdrawn call.normal (call.skipped index) key old
  /-- The row that a skipped entry names is the one that its key reads. -/
  holders : ∀ skip ∈ call.skipped index, index.byKey[skip.2.key]? = some skip.2 →
    (linkMapOf rows)[skip.2.key]? = some skip.2
  /-- A stored entry that is added to the rows has an owner that a row gives back, and comes into
  the table too. -/
  added : ∀ (key : String) (mine : Link), call.Stores index key mine →
    Database.leadsTo rows mine.originalUrl = false →
      mine.owner ≠ some "" ∧ (key ∈ named (call.skipped index) ∨ (linkMapOf rows)[key]? = none)
  /-- A stored entry that is not added, because a row leads to its address, does not come into the
  table either. -/
  dropped : ∀ (key : String) (mine : Link), call.Stores index key mine →
    Database.leadsTo rows mine.originalUrl = true →
      key ∉ named (call.skipped index) ∧
        ((linkMapOf rows)[key]? ≠ none ∨ Leads (linkMapOf rows) mine.originalUrl)

/-- **One batch over rows.** The table of the rows becomes the one that would be loaded exactly when
the batch loads back. -/
theorem settle_eq_loaded_iff (judged : call.Judged rows index) :
    call.settle (linkMapOf rows) index = call.loaded index rows ↔ call.LoadsBack rows index := by
  have notAdded {key : String} (notStored : ∀ mine, ¬ call.Stores index key mine) :
      (call.loaded index rows)[key]? = (linkMapOf rows)[key]? :=
    getElem?_loaded_of_not_added judged fun mine stores => absurd stores (notStored mine)
  have dropped {key : String} {mine : Link} (stores : call.Stores index key mine)
      (led : Database.leadsTo rows mine.originalUrl = true) :
      (call.loaded index rows)[key]? = (linkMapOf rows)[key]? := by
    refine getElem?_loaded_of_not_added judged fun other also => ?_
    obtain rfl := Option.some.inj (stores.1.symm.trans also.1)
    exact led
  constructor
  · intro same
    have under (key : String) :
        (call.settle (linkMapOf rows) index)[key]? = (call.loaded index rows)[key]? := by rw [same]
    have kept {key : String} (notStored : ∀ mine, ¬ call.Stores index key mine) :=
      (getElem?_settle_of_not_stores judged notStored).mp ((under key).trans (notAdded notStored))
    refine ⟨fun key old stands withdrawn => ?_, fun skip mem held => ?_,
      fun key mine stores unled => ?_, fun key mine stores led => ?_⟩
    · exact (kept fun mine stores => stores.not_withdrawn old withdrawn).1 old stands withdrawn
    · refine (kept fun mine stores => ?_).2 skip mem rfl
      rw [(stored_normal judged.sound stores.1 stores.2).1] at held
      cases held
    · have now := under key
      rw [getElem?_settle_of_unled judged stores unled,
        getElem?_loaded_of_added judged stores unled] at now
      split at now
      · next comes => exact ⟨toRow_toLink_eq_self_iff.mp (Option.some.inj now).symm, comes⟩
      · -- The table would lead to an address that no row leads to.
        refine absurd (DatabaseKeeper.leadsTo_of_leads ⟨key, _, now, rfl⟩) ?_
        exact Bool.eq_false_iff.mp unled
    · exact (getElem?_settle_of_stores judged stores).mp
        ((under key).trans (dropped stores led))
  · intro back
    refine Std.ExtTreeMap.ext_getElem? fun {key} => ?_
    by_cases stored : ∃ mine, call.Stores index key mine
    · obtain ⟨mine, stores⟩ := stored
      cases led : Database.leadsTo rows mine.originalUrl with
      | false =>
          obtain ⟨owner, comes⟩ := back.added key mine stores led
          rw [getElem?_settle_of_unled judged stores led, if_pos comes,
            getElem?_loaded_of_added judged stores led, toRow_toLink_eq_self_iff.mpr owner]
      | true =>
          rw [dropped stores led]
          exact (getElem?_settle_of_stores judged stores).mpr (back.dropped key mine stores led)
    · have notStored (mine : Link) : ¬ call.Stores index key mine := fun stores =>
        stored ⟨mine, stores⟩
      rw [notAdded notStored]
      refine (getElem?_settle_of_not_stores judged notStored).mpr ⟨back.kept key, ?_⟩
      rintro skip mem rfl
      refine back.holders skip mem ?_
      exact (of_filed judged.sound (call.holder_stored judged.sound skip mem)).resolve_right
        fun ⟨_, mine, notSkipped⟩ => notStored _ ⟨mine, notSkipped⟩

end BatchCall

/-! ### Writes -/

namespace Store

/-- Loading the links anew would give the table. -/
def Reloads (state : Store × DatabaseKeeper) : Prop :=
  (Keeper.load state.2).1 = .ok state.1.links

theorem reloads_iff {state : Store × DatabaseKeeper} {rows : List LinkRow}
    (holds : state.2.Holds rows) : Reloads state ↔ state.1.links = linkMapOf rows := by
  have loaded : Keeper.load state.2 = (.ok (linkMapOf rows), state.2) := by
    simp only [Keeper.load, DatabaseKeeper.load, holds.linkRows]
  rw [Reloads, loaded]
  exact ⟨fun same => (Except.ok.inj same).symm, fun same => congrArg Except.ok same.symm⟩

/-- The rows are those of these links, whose identities are distinct and whose owners a row gives
back, and the table is what the rows give. -/
structure Reflects (links : List Link) (state : Store × DatabaseKeeper) : Prop where
  rows : state.2.Holds (links.map Link.toRow)
  ids : (links.map (·.id)).Nodup
  owners : ∀ link ∈ links, link.owner ≠ some ""
  table : state.1.links = linkMapOf (links.map Link.toRow)

variable {links : List Link} {state : Store × DatabaseKeeper}

theorem Reflects.reloads (reflects : Reflects links state) : Reloads state :=
  (reloads_iff reflects.rows).mpr reflects.table

theorem Reflects.rows_eq (reflects : Reflects links state) :
    state.2.rows = links.map Link.toRow := reflects.rows.rows_eq

end Store

open Store (Reloads Reflects)

namespace Write

/-- What a write that succeeds needs of a database, whose rows give the table, so that the table
afterwards is again the one that would be loaded. -/
def LoadsBack (k : DatabaseKeeper) : Write → Prop
  | .link fresh key record =>
      let own := entryLink (fun _ => fresh) (key, record)
      match Database.conflicting? k.rows own.originalUrl own.shortUrl with
      | some row => (linkMapOf k.rows)[row.key]? = some row.toLink
      | none => own.owner ≠ some ""
  | .batch call => call.LoadsBack k.rows (k.indexFor call.fresh call.normal)
  | _ => True

/-- What a step does to a store over a database whose rows give the table: the rows that it leaves
are again the table exactly under this condition, and then they give their links back. -/
structure Renews (condition : Prop) (after : List Link) (state : Store × DatabaseKeeper) :
    Prop where
  rows : state.2.Holds (after.map Link.toRow)
  ids : (after.map (·.id)).Nodup
  table : state.1.links = linkMapOf (after.map Link.toRow) ↔ condition
  owners : condition → ∀ link ∈ after, link.owner ≠ some ""

variable {links : List Link} {state : Store × DatabaseKeeper}

theorem renews_link (reflects : Reflects links state) {fresh key : String} {record : Link}
    (ok : (Write.link fresh key record).Succeeds state) :
    ∃ after, Renews ((Write.link fresh key record).LoadsBack state.2) after
      ((Write.link fresh key record).next state) := by
  have saved : Keeper.save fresh key record state.2 = _ :=
    DatabaseKeeper.save_eq reflects.rows (fun _ => fresh) (key, record) rfl
  simp only [Succeeds, next, outcome, Store.Outcome.status, Store.insertLink, saved, LoadsBack,
    reflects.rows_eq] at ok ⊢
  generalize entryLink (fun _ => fresh) (key, record) = own at ok ⊢
  cases way : Database.conflicting? (links.map Link.toRow) own.originalUrl own.shortUrl with
  | some row =>
      refine ⟨links, reflects.rows, reflects.ids, ?_, fun _ => reflects.owners⟩
      simp only [Inserted.record, LinkRow.toLink_key, reflects.table]
      constructor
      · intro same
        rw [← same]
        simp
      · exact LinkMap.insert_eq_self
  | none =>
      simp only [way] at ok ⊢
      by_cases borne : (links.map Link.toRow).any (·.id = own.id) = true
      · rw [if_pos borne] at ok
        cases ok
      · rw [if_neg borne]
        refine ⟨links ++ [own], ⟨reflects.rows.isOpen, ?_⟩, ?_, ?_, ?_⟩
        · rw [List.map_append]
          rfl
        · refine Copies.nodup_map_concat reflects.ids fun other mem same => borne ?_
          exact List.any_eq_true.mpr ⟨_, List.mem_map_of_mem mem, decide_eq_true same⟩
        · simp only [Inserted.record, reflects.table, List.map_append,
            DatabaseKeeper.linkMapOf_append]
          rw [← toRow_toLink_eq_self_iff]
          constructor
          · intro same
            have here := congrArg (fun table : LinkMap => table[own.key]?) same
            simpa [insertAll, rowEntries, LinkRow.key, Link.key, eq_comm] using here
          · intro back
            simp [insertAll, rowEntries, back, LinkRow.key, Link.key]
        · intro owner link mem
          rcases List.mem_append.mp mem with old | new
          · exact reflects.owners link old
          · exact List.mem_singleton.mp new ▸ owner

theorem renews_batch (reflects : Reflects links state) {call : BatchCall}
    (ok : (Write.batch call).Succeeds state) :
    ∃ after, Renews ((Write.batch call).LoadsBack state.2) after
      ((Write.batch call).next state) := by
  obtain ⟨settled, rows, added, holds⟩ := batch_next_of_ok reflects.rows.serving ok
  have judged := call.judged_indexFor state.2
  simp only [LoadsBack]
  generalize state.2.indexFor call.fresh call.normal = index at settled added judged ⊢
  rw [reflects.rows_eq] at added judged ⊢
  have urls : (((call.filed index).created.map Link.toRow).map (·.originalUrl)).Nodup := by
    rw [List.map_map]
    exact (BatchCall.created_nodup judged.sound).2
  have ids := Database.addLinks_ids (by rw [List.map_map]; exact reflects.ids) added
  obtain rfl : rows = (links ++ call.added index (links.map Link.toRow)).map Link.toRow := by
    rw [Database.addLinks_ok urls added, List.filter_map, List.map_append]
    rfl
  refine ⟨_, holds, by rwa [List.map_map] at ids, ?_, fun back link mem => ?_⟩
  · rw [settled, reflects.table, ← BatchCall.settle_eq_loaded_iff judged, BatchCall.loaded,
      List.map_append]
  · rcases List.mem_append.mp mem with old | new
    · exact reflects.owners link old
    · obtain ⟨stores, unled⟩ := (BatchCall.mem_added judged.sound).mp new
      exact (back.added link.key link stores unled).1

theorem renews_user (reflects : Reflects links state) (fresh email : String) (record : User) :
    Renews True links ((Write.user fresh email record).next state) := by
  obtain ⟨table, keeper⟩ := user_next state fresh email record
  refine ⟨?_, reflects.ids, iff_of_true (table.trans reflects.table) trivial,
    fun _ => reflects.owners⟩
  rw [keeper]
  exact DatabaseKeeper.saveUser_holds reflects.rows fresh email record

theorem entriesOf_deletedBy (requests : List DeletionRequest) (links : List Link) :
    (entriesOf links).map (fun entry => (entry.1,
        LinkMap.afterPairs (requests.flatMap DeletionRequest.pairs) entry.1 entry.2))
      = entriesOf (links.map (Copies.deletedBy requests)) := by
  rw [entriesOf, entriesOf, List.map_map, List.map_map]
  exact List.map_congr_left fun link _ => Prod.ext (Copies.deletedBy_key requests).symm rfl

theorem renews_deletion (reflects : Reflects links state) (requests : List DeletionRequest) :
    Renews True (links.map (Copies.deletedBy requests))
      ((Write.deletion requests).next state) := by
  have owners : ∀ link ∈ links.map (Copies.deletedBy requests), link.owner ≠ some "" := by
    intro link mem
    obtain ⟨before, stored, rfl⟩ := List.mem_map.mp mem
    rw [Copies.deletedBy, LinkMap.afterPairs]
    split <;> exact reflects.owners before stored
  rw [deletion_next reflects.rows reflects.ids]
  refine ⟨⟨reflects.rows.isOpen, rfl⟩, ?_, iff_of_true ?_ trivial, fun _ => owners⟩
  · simpa [Function.comp_def] using reflects.ids
  · dsimp only
    rw [reflects.table, DatabaseKeeper.linkMapOf_toRow reflects.owners,
      DatabaseKeeper.linkMapOf_toRow owners]
    refine Std.ExtTreeMap.ext_getElem? fun {key} => ?_
    rw [LinkMap.getElem?_tombstone, ← entriesOf_deletedBy]
    exact (LinkMap.getElem?_insertAll_map (fun _ => rfl) key).symm

/-- **One write over a database** whose rows give the table renews that exactly when it loads
back. -/
theorem renews (write : Write) (reflects : Reflects links state) (ok : write.Succeeds state) :
    ∃ after, Renews (write.LoadsBack state.2) after (write.next state) := by
  cases write with
  | link fresh key record => exact renews_link reflects ok
  | user fresh email record => exact ⟨links, renews_user reflects fresh email record⟩
  | batch call => exact renews_batch reflects ok
  | deletion requests => exact ⟨_, renews_deletion reflects requests⟩

end Write

/-! ### Runs -/

/-- A keeper opened anew on the database of this one; it remembers no counts. -/
def DatabaseKeeper.reopened (k : DatabaseKeeper) : DatabaseKeeper :=
  { backend := k.backend, database := k.database, reads := k.reads }

theorem DatabaseKeeper.Holds.reopened {k : DatabaseKeeper} {rows : List LinkRow}
    (holds : k.Holds rows) : k.reopened.Holds rows := ⟨rfl, holds.links⟩

/-- A store that is opened anew has what the rows give. -/
theorem DatabaseKeeper.Holds.ofKeeper_reopened {k : DatabaseKeeper} {rows : List LinkRow}
    (holds : k.Holds rows) :
    (Store.ofKeeper k.reopened).1.links = linkMapOf rows ∧
      (Store.ofKeeper k.reopened).2 = k.reopened := by
  have loaded : Keeper.load k.reopened = (.ok (linkMapOf rows), k.reopened) := by
    simp only [Keeper.load, load, holds.reopened.linkRows]
  have users : (Keeper.loadUsers k.reopened).2 = k.reopened := by
    simp only [Keeper.loadUsers, loadUsers]
    split <;> rfl
  simp only [Store.ofKeeper, loaded]
  exact ⟨rfl, users⟩

theorem Store.Reloads.exists_holds {state : Store × DatabaseKeeper} (reloads : Reloads state) :
    ∃ rows, state.2.Holds rows := by
  simp only [Reloads, Keeper.load, DatabaseKeeper.load, DatabaseKeeper.linkRows,
    DatabaseKeeper.tableOf] at reloads
  by_cases serves : state.2.isOpen = true
  · cases stored : state.2.database.links with
    | some rows => exact ⟨rows, serves, stored⟩
    | none =>
        simp only [serves, stored, if_true] at reloads
        cases reloads
  · rw [if_neg serves] at reloads
    cases reloads

/-- What happens to a store over a database: a write, or it is closed and opened anew. -/
inductive Turn where
  | write (call : Write)
  | reopen

namespace Turn

/-- Store and keeper afterwards. -/
def next (state : Store × DatabaseKeeper) : Turn → Store × DatabaseKeeper
  | .write call => call.next state
  | .reopen => Store.ofKeeper state.2.reopened

/-- Does it succeed? Opening anew always does. -/
def Succeeds (state : Store × DatabaseKeeper) : Turn → Prop
  | .write call => call.Succeeds state
  | .reopen => True

/-- Does it leave the table to be loaded again? Opening anew always does. -/
def LoadsBack (state : Store × DatabaseKeeper) : Turn → Prop
  | .write call => call.LoadsBack state.2
  | .reopen => True

variable {links : List Link} {state : Store × DatabaseKeeper}

/-- A store whose table would be loaded has the same table when it is opened anew. -/
theorem links_reopen (reloads : Reloads state) : (next state .reopen).1.links = state.1.links := by
  obtain ⟨rows, holds⟩ := reloads.exists_holds
  exact holds.ofKeeper_reopened.1.trans ((Store.reloads_iff holds).mp reloads).symm

theorem renews (reflects : Reflects links state) {turn : Turn} (ok : turn.Succeeds state) :
    ∃ after, Write.Renews (turn.LoadsBack state) after (turn.next state) := by
  cases turn with
  | write call => exact call.renews reflects ok
  | reopen =>
      obtain ⟨table, keeper⟩ := reflects.rows.ofKeeper_reopened
      refine ⟨links, ?_, reflects.ids, iff_of_true table trivial, fun _ => reflects.owners⟩
      exact keeper.symm ▸ reflects.rows.reopened

end Turn

namespace Store

theorem reflects_ofDatabase (backend : String) (reads : ReadOrder) :
    Reflects [] (ofDatabase backend reads) where
  rows := ⟨rfl, rfl⟩
  ids := .nil
  owners := by simp
  table := rfl

/-- **Table and database agree** after every step of a run without failures over an empty database,
in which the store may be opened anew at any point, exactly when every write loads back. A store
that is opened anew then has the same table. -/
theorem reloads_throughout_iff (backend : String) (reads : ReadOrder) {turns : List Turn}
    (along : Along Turn.next Turn.Succeeds (ofDatabase backend reads) turns) :
    Throughout Turn.next
        (fun state => Reloads state ∧ (Turn.next state .reopen).1.links = state.1.links)
        (ofDatabase backend reads) turns ↔
      Along Turn.next Turn.LoadsBack (ofDatabase backend reads) turns := by
  let reflected (state : Store × DatabaseKeeper) : Prop := ∃ links, Reflects links state
  have begun : reflected (ofDatabase backend reads) := ⟨[], reflects_ofDatabase backend reads⟩
  have implies (state : Store × DatabaseKeeper) : reflected state →
      Reloads state ∧ (Turn.next state .reopen).1.links = state.1.links := by
    rintro ⟨links, reflects⟩
    exact ⟨reflects.reloads, Turn.links_reopen reflects.reloads⟩
  have kept (state : Store × DatabaseKeeper) (turn : Turn) : reflected state →
      turn.Succeeds state → (Reloads (turn.next state) ∧
          (Turn.next (turn.next state) .reopen).1.links = (turn.next state).1.links ↔
        turn.LoadsBack state) := by
    rintro ⟨links, reflects⟩ ok
    obtain ⟨after, renews⟩ := Turn.renews reflects ok
    rw [and_iff_left_of_imp Turn.links_reopen, reloads_iff renews.rows, renews.table]
  have preserved (state : Store × DatabaseKeeper) (turn : Turn) : reflected state →
      turn.Succeeds state → turn.LoadsBack state → reflected (turn.next state) := by
    rintro ⟨links, reflects⟩ ok back
    obtain ⟨after, renews⟩ := Turn.renews reflects ok
    exact ⟨after, renews.rows, renews.ids, renews.owners back, renews.table.mpr back⟩
  exact throughout_iff_along_of_along implies kept preserved begun along

/-- Links that share a key but no text, the second behind a closing, and the first asked for
again. -/
def hiddenRow : List Turn :=
  [.write (.link "1" "abc" ⟨"", "", "u1", none, false⟩), .reopen,
    .write (.link "2" "x" ⟨"", "http://h.io/abc", "u2", none, false⟩),
    .write (.link "3" "y" ⟨"", "", "u1", none, false⟩)]

theorem hiddenRow_succeeds :
    Along Turn.next Turn.Succeeds (ofDatabase "sqlite" .indexed) hiddenRow := by
  refine ⟨?_, trivial, ?_, ?_, trivial⟩
  · change Write.Succeeds _ _
    decide +kernel
  · change Write.Succeeds _ _
    decide +kernel
  · change Write.Succeeds _ _
    decide +kernel

theorem reloads_throughout_iff_hiddenRow :
    Along Turn.next Turn.Succeeds (ofDatabase "sqlite" .indexed) hiddenRow ∧
      (Throughout Turn.next
          (fun state => Reloads state ∧ (Turn.next state .reopen).1.links = state.1.links)
          (ofDatabase "sqlite" .indexed) hiddenRow ↔
        Along Turn.next Turn.LoadsBack (ofDatabase "sqlite" .indexed) hiddenRow) :=
  ⟨hiddenRow_succeeds, reloads_throughout_iff "sqlite" .indexed hiddenRow_succeeds⟩

/-- No write fails, and the store reads the first link under the key, but opened anew the second. -/
theorem hiddenRow_parts :
    Along Turn.next Turn.Succeeds (ofDatabase "sqlite" .indexed) hiddenRow ∧
      (hiddenRow.foldl Turn.next (ofDatabase "sqlite" .indexed)).1.getLink "abc"
        = .ok ⟨"1", "abc", "u1", none, false⟩ ∧
      ((hiddenRow ++ [Turn.reopen]).foldl Turn.next (ofDatabase "sqlite" .indexed)).1.getLink "abc"
        = .ok ⟨"2", "http://h.io/abc", "u2", none, false⟩ ∧
      ¬ Throughout Turn.next Reloads (ofDatabase "sqlite" .indexed) hiddenRow := by
  have before : (hiddenRow.foldl Turn.next (ofDatabase "sqlite" .indexed)).1.getLink "abc"
      = .ok ⟨"1", "abc", "u1", none, false⟩ := getLink_eq_ok_iff.mpr (by decide +kernel)
  have after :
      ((hiddenRow ++ [Turn.reopen]).foldl Turn.next (ofDatabase "sqlite" .indexed)).1.getLink "abc"
        = .ok ⟨"2", "http://h.io/abc", "u2", none, false⟩ :=
    getLink_eq_ok_iff.mpr (by decide +kernel)
  refine ⟨hiddenRow_succeeds, before, after, fun throughout => ?_⟩
  have same := Turn.links_reopen throughout.last
  rw [List.foldl_append, List.foldl_cons, List.foldl_nil, getLink_eq_ok_iff, same] at after
  rw [getLink_eq_ok_iff, after] at before
  exact absurd (Option.some.inj before) (by decide)

end Store

/-! ### Plain links -/

namespace Tallies

variable {links : List Link} {index : LinkIndex} {state : Store × DatabaseKeeper}

theorem table_eq_linkMapOf (tallies : Tallies links index state) :
    state.1.links = linkMapOf (links.map Link.toRow) := by
  refine tallies.table.trans (tallies.copies.linkMapOf_eq_iff.mpr fun key link found => ?_).symm
  exact (tallies.plain link ((tallies.copies.holds key link).mp found).1).named

theorem reopen (tallies : Tallies links index state) :
    Tallies links index (Turn.next state .reopen) where
  rows := tallies.rows.ofKeeper_reopened.2.symm ▸ tallies.rows.reopened
  copies := tallies.copies
  ids := tallies.ids
  plain := tallies.plain
  table := by
    rw [← tallies.table, tallies.table_eq_linkMapOf]
    exact tallies.rows.ofKeeper_reopened.1

end Tallies

/-- Does a turn bring in plain links only, and with new identities? -/
def Turn.Plain (state : Store × DatabaseKeeper) : Turn → Prop
  | .write call => call.Regular state ∧ call.Plain
  | .reopen => True

/-- **Table and database agree** after every step of a run without failures, in which the store may
be opened anew at any point, if every link is written as its key and no owner is the empty text. -/
theorem Store.reloads_throughout_of_plain (backend : String) (reads : ReadOrder)
    {turns : List Turn} (along : Along Turn.next Turn.Plain (ofDatabase backend reads) turns) :
    Throughout Turn.next Reloads (ofDatabase backend reads) turns := by
  let tallied (state : Store × DatabaseKeeper) : Prop := ∃ links index, Tallies links index state
  have start : tallied (ofDatabase backend reads) := ⟨[], {}, tallies_ofDatabase backend reads⟩
  have stays (state : Store × DatabaseKeeper) (turn : Turn) :
      tallied state → turn.Plain state → tallied (turn.next state) := by
    rintro ⟨links, index, tallies⟩ plain
    cases turn with
    | write call =>
        obtain ⟨after, later⟩ := tallies.next plain.1 plain.2
        exact ⟨after, _, later⟩
    | reopen => exact ⟨links, index, tallies.reopen⟩
  refine (throughout_of_step stays start along).imp ?_
  rintro state ⟨links, index, tallies⟩
  exact (reloads_iff tallies.rows).mpr tallies.table_eq_linkMapOf

end ShortLinks
