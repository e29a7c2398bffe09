import ShortLinks.Proofs.Database.Rows

/-!
Links that are stored twice, in an index and as rows of a database.

* `Copies` — an index holds exactly the links of a list, no two of which share a key or an address;
  their rows are the rows of the database.
* `Copies.append`, `Copies.insertEntries`, `Copies.tombstone` — a link with a free key and a free
  address comes in on both sides, and so do those of a batch; a deletion marks the same links on
  both.
* `IdsFree` — a column of identities lets links in that the index lets in.
* `toRow_toLink_eq_self_iff` — a row gives its link back unless the owner is the empty text; so the
  table of the rows is the table of the index exactly when no link has such an owner.
-/

namespace ShortLinks

open LinkMap (afterPairs askedFor)

/-- An index holds exactly these links. -/
structure Copies (links : List Link) (index : LinkIndex) : Prop where
  sound : index.Sound
  holds : ∀ (key : String) (link : Link),
    index.byKey[key]? = some link ↔ link ∈ links ∧ link.key = key
  keys : (links.map (·.key)).Nodup
  urls : (links.map (·.originalUrl)).Nodup

namespace Copies

variable {links : List Link} {index : LinkIndex} {link : Link}

theorem empty : Copies [] {} where
  sound := LinkIndex.sound_empty
  holds := by simp
  keys := .nil
  urls := .nil

theorem mem_iff (copies : Copies links index) :
    link ∈ links ↔ index.byKey[link.key]? = some link := by
  simp [copies.holds]

theorem leads_iff (copies : Copies links index) {url : String} :
    LinkMap.Leads index.byKey url ↔ ∃ link ∈ links, link.originalUrl = url := by
  constructor
  · rintro ⟨key, link, found, leads⟩
    exact ⟨link, ((copies.holds key link).mp found).1, leads⟩
  · rintro ⟨link, mem, leads⟩
    exact ⟨link.key, link, copies.mem_iff.mp mem, leads⟩

theorem uniqueUrls (copies : Copies links index) : LinkMap.UniqueUrls index.byKey := by
  intro key other link twin found foundTwin same
  obtain ⟨mem, rfl⟩ := (copies.holds key link).mp found
  obtain ⟨twinMem, rfl⟩ := (copies.holds other twin).mp foundTwin
  rw [List.inj_on_of_nodup_map copies.urls mem twinMem same]

theorem eq_of_key (copies : Copies links index) {twin : Link} (mem : link ∈ links)
    (twinMem : twin ∈ links) (same : link.key = twin.key) : link = twin :=
  List.inj_on_of_nodup_map copies.keys mem twinMem same

/-- There are as many rows as entries of the index. -/
theorem size_eq (copies : Copies links index) : index.size = links.length := by
  have members : (index.byKey.toList.map (·.1)).Perm (links.map (·.key)) := by
    refine (List.perm_ext_iff_of_nodup (LinkMap.keys_nodup _) copies.keys).mpr fun key => ?_
    simp only [List.mem_map, Prod.exists, Std.ExtTreeMap.mem_toList_iff_getElem?_eq_some,
      copies.holds, exists_and_right, exists_eq_right]
  rw [LinkIndex.size, ← Std.ExtTreeMap.length_toList, ← List.length_map (·.1),
    members.length_eq, List.length_map]

/-! ### Rows -/

theorem rows_apart (copies : Copies links index) : Database.Apart (links.map Link.toRow) := by
  have keys := List.pairwise_map.mp copies.keys
  have urls := List.pairwise_map.mp copies.urls
  refine List.pairwise_map.mpr ((keys.and urls).imp fun apart => ⟨apart.2, fun same => ?_⟩)
  -- Links with one text have one key.
  exact apart.1 (congrArg keyOf same)

/-- The link whose row is in the way is the one that the index answers with. -/
theorem eq_existing_of_row (copies : Copies links index) {own : Link}
    {answer : Inserted Link × LinkIndex} (step : LinkIndex.Insertion index own answer)
    (stored : link ∈ links)
    (inWay : link.originalUrl = own.originalUrl ∨ link.shortUrl = own.shortUrl ∧
      ∀ row ∈ links.map Link.toRow, row.originalUrl ≠ own.originalUrl) :
    answer = (.existing link, index) := by
  refine step.eq_existing copies.uniqueUrls (copies.mem_iff.mp stored) ?_
  refine inWay.imp id fun ⟨short, noRow⟩ => ⟨congrArg keyOf short, fun leads => ?_⟩
  obtain ⟨other, otherStored, url⟩ := copies.leads_iff.mp leads
  exact noRow _ (List.mem_map_of_mem otherStored) url

/-! ### Changes -/

theorem nodup_map_concat {f : Link → String} (distinct : (links.map f).Nodup)
    (apart : ∀ other ∈ links, f other ≠ f link) : ((links ++ [link]).map f).Nodup := by
  rw [List.map_append, List.map_singleton, List.nodup_append_comm, List.singleton_append,
    List.nodup_cons]
  refine ⟨fun among => ?_, distinct⟩
  obtain ⟨other, mem, same⟩ := List.mem_map.mp among
  exact apart other mem same

/-- A link that is free on both sides comes in on both. -/
theorem append (copies : Copies links index) (free : index.byKey[link.key]? = none)
    (unled : ¬ LinkMap.Leads index.byKey link.originalUrl) :
    Copies (links ++ [link]) (index.put (link.key, link)) where
  sound := copies.sound.put free
  holds key other := by
    rw [LinkIndex.byKey_put_eq_some_iff free, copies.holds]
    simp only [List.mem_append, List.mem_singleton]
    constructor
    · rintro (⟨mem, own⟩ | ⟨rfl, rfl⟩)
      · exact ⟨.inl mem, own⟩
      · exact ⟨.inr rfl, rfl⟩
    · rintro ⟨mem | rfl, rfl⟩
      · exact .inl ⟨mem, rfl⟩
      · exact .inr ⟨rfl, rfl⟩
  keys := nodup_map_concat copies.keys fun other mem same => by
    rw [← same, copies.mem_iff.mp mem] at free
    nomatch free
  urls := nodup_map_concat copies.urls fun other mem same =>
    unled (copies.leads_iff.mpr ⟨other, mem, same⟩)

theorem insertEntries (fresh : String → String) (entries : List (String × Link))
    (copies : Copies links index) :
    Copies (links ++ (index.insertEntries fresh entries).created)
      (index.insertEntries fresh entries).index := by
  induction entries generalizing links index with
  | nil => simpa [LinkIndex.insertEntries] using copies
  | cons entry rest ih =>
      obtain ⟨key, link⟩ := entry
      have step := copies.sound.insertion fresh (key, link)
      generalize inserted : index.insert (fresh key) key link = answer at step
      cases step with
      | refused stored inWay => simpa only [LinkIndex.insertEntries, inserted] using ih copies
      | stored free unled =>
          simp only [LinkIndex.insertEntries, inserted]
          rw [List.append_cons]
          exact ih (copies.append free unled)

/-- A link after a deletion. -/
def deletedBy (requests : List DeletionRequest) (link : Link) : Link :=
  afterPairs (requests.flatMap DeletionRequest.pairs) link.key link

@[simp] theorem deletedBy_key (requests : List DeletionRequest) :
    (deletedBy requests link).key = link.key := LinkMap.afterPairs_key _ _ _

@[simp] theorem deletedBy_originalUrl (requests : List DeletionRequest) :
    (deletedBy requests link).originalUrl = link.originalUrl := LinkMap.afterPairs_originalUrl _ _ _

@[simp] theorem deletedBy_id (requests : List DeletionRequest) :
    (deletedBy requests link).id = link.id := by
  unfold deletedBy afterPairs
  split <;> rfl

theorem tombstone (copies : Copies links index) (requests : List DeletionRequest) :
    Copies (links.map (deletedBy requests)) (index.tombstone requests).1 where
  sound := copies.sound.tombstone requests
  holds key link := by
    rw [LinkIndex.byKey_tombstone, LinkMap.getElem?_tombstone, Option.map_eq_some_iff]
    simp only [copies.holds, List.mem_map]
    constructor
    · rintro ⟨before, ⟨mem, rfl⟩, rfl⟩
      exact ⟨⟨before, mem, rfl⟩, deletedBy_key requests⟩
    · rintro ⟨⟨before, mem, rfl⟩, rfl⟩
      exact ⟨before, ⟨mem, (deletedBy_key requests).symm⟩, by rw [deletedBy_key, deletedBy]⟩
  keys := by simpa [Function.comp_def] using copies.keys
  urls := by simpa [Function.comp_def] using copies.urls

/-- The rows are marked as the index is. -/
theorem marked_rows (requests : List DeletionRequest) (links : List Link) :
    (links.map Link.toRow).map (Database.marked (DatabaseKeeper.keyPairs requests))
      = (links.map (deletedBy requests)).map Link.toRow := by
  rw [List.map_map, List.map_map]
  refine List.map_congr_left fun link _ => ?_
  have asked : Database.isAskedFor (DatabaseKeeper.keyPairs requests) link.toRow
      = askedFor (requests.flatMap DeletionRequest.pairs) link.key link := by
    rw [Bool.eq_iff_iff]
    unfold Database.isAskedFor askedFor DatabaseKeeper.keyPairs Link.isOwnedBy
    cases owner : link.owner with
    | none => simp [Link.toRow, owner]
    | some name =>
        simp only [Link.toRow, owner, List.contains_iff_mem, List.mem_map, List.any_eq_true,
          Bool.and_eq_true, decide_eq_true_eq, and_true, Prod.mk.injEq, Option.some.injEq]
        exact exists_congr fun pair => and_congr_right fun _ =>
          ⟨fun ⟨own, key⟩ => ⟨key, own.symm⟩, fun ⟨key, own⟩ => ⟨own.symm, key⟩⟩
  simp only [Function.comp_apply, Database.marked, asked, deletedBy, afterPairs]
  split <;> rfl

end Copies

/-! ### Identities -/

/-- These links bear identities of their own, which no stored link bears. -/
structure LinkIndex.IdsFree (index : LinkIndex) (created : List Link) : Prop where
  distinct : (created.map (·.id)).Nodup
  unborne : ∀ link ∈ created, ∀ (key : String) (stored : Link),
    index.byKey[key]? = some stored → stored.id ≠ link.id

theorem Copies.nodup_ids_iff {links created : List Link} {index : LinkIndex}
    (copies : Copies links index) (ids : (links.map (·.id)).Nodup) :
    ((links ++ created).map (·.id)).Nodup ↔ index.IdsFree created := by
  rw [List.map_append, List.nodup_append]
  constructor
  · rintro ⟨-, distinct, apart⟩
    refine ⟨distinct, fun link mem key stored found => ?_⟩
    exact apart _ (List.mem_map_of_mem ((copies.holds key stored).mp found).1) _
      (List.mem_map_of_mem mem)
  · rintro ⟨distinct, unborne⟩
    refine ⟨ids, distinct, ?_⟩
    simp only [List.mem_map]
    rintro _ ⟨stored, mem, rfl⟩ _ ⟨link, among, rfl⟩
    exact unborne link among stored.key stored (copies.mem_iff.mp mem)

/-- The rows of new links come in unless two links would bear one identity. -/
theorem Copies.addLinks_eq {links created : List Link} {index : LinkIndex}
    (copies : Copies (links ++ created) index) (ids : (links.map (·.id)).Nodup) :
    Database.addLinks (links.map Link.toRow) (created.map Link.toRow) =
      if ((links ++ created).map (·.id)).Nodup then .ok ((links ++ created).map Link.toRow)
      else .error .linkId := by
  have apart := copies.rows_apart
  have rows_ids_iff : (links.map Link.toRow ++ created.map Link.toRow).Pairwise (·.id ≠ ·.id) ↔
      ((links ++ created).map (·.id)).Nodup := by
    rw [← List.map_append, List.pairwise_map, List.Nodup, List.pairwise_map]
    rfl
  rw [List.map_append] at apart
  by_cases distinct : ((links ++ created).map (·.id)).Nodup
  · rw [if_pos distinct, Database.addLinks_of_apart apart (rows_ids_iff.mpr distinct),
      List.map_append]
  · rw [if_neg distinct, Database.addLinks_of_borne apart
      (List.pairwise_map.mpr (List.pairwise_map.mp ids)) (mt rows_ids_iff.mp distinct)]

/-! ### Reading rows back -/

/-- A row gives its link back unless the owner is the empty text. -/
theorem toRow_toLink_eq_self_iff {link : Link} :
    link.toRow.toLink = link ↔ link.owner ≠ some "" := by
  obtain ⟨id, shortUrl, originalUrl, owner, deleted⟩ := link
  cases owner with
  | none => simp [Link.toRow, LinkRow.toLink]
  | some name => simp [Link.toRow, LinkRow.toLink]

namespace Copies

variable {links : List Link} {index : LinkIndex}

theorem getElem?_linkMapOf (copies : Copies links index) {key : String} {link : Link} :
    (DatabaseKeeper.linkMapOf (links.map Link.toRow))[key]? = some link ↔
      ∃ stored, index.byKey[key]? = some stored ∧ stored.toRow.toLink = link := by
  rw [DatabaseKeeper.getElem?_linkMapOf]
  · simp only [List.mem_map, copies.holds]
    grind [Link.key, LinkRow.key, Link.toRow_shortUrl]
  · simp only [List.mem_map]
    rintro _ ⟨link, mem, rfl⟩ _ ⟨twin, twinMem, rfl⟩ same
    rw [copies.eq_of_key mem twinMem same]

/-- The table of the rows is the table of the index exactly when no owner is the empty text. -/
theorem linkMapOf_eq_iff (copies : Copies links index) :
    DatabaseKeeper.linkMapOf (links.map Link.toRow) = index.byKey ↔
      ∀ (key : String) (link : Link), index.byKey[key]? = some link → link.owner ≠ some "" := by
  constructor
  · intro same key link found
    have again := copies.getElem?_linkMapOf.mpr ⟨link, found, rfl⟩
    rw [same, found] at again
    exact toRow_toLink_eq_self_iff.mp (Option.some.inj again).symm
  · intro named
    refine Std.ExtTreeMap.ext_getElem? fun {key} => Option.ext fun link => ?_
    rw [copies.getElem?_linkMapOf]
    constructor
    · rintro ⟨stored, found, rfl⟩
      rwa [toRow_toLink_eq_self_iff.mpr (named key stored found)]
    · exact fun found => ⟨link, found, toRow_toLink_eq_self_iff.mpr (named key link found)⟩

end Copies

end ShortLinks
