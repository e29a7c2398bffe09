import ShortLinks.Proofs.Keeper.Greedy

/-!
Batches that come a second time.

* `Seated` — a link that came in stands where it stood, perhaps marked since, and its key holds the
  addresses that it held. New links, marks, and the taking back of other links leave it there.
* `exists_seated_of_mem`, `seated_of_created` — when a batch is done, a link is seated in the way of
  each of its entries. For an entry that was stored it is the link of the entry itself.
* `insertEntries_of_blocked` — a batch whose entries all have a link in their way changes nothing.
* `insertBatch_again` — so a batch that comes again changes nothing, whatever index it came to and
  whatever happened to the index in between.

For an entry that was skipped the first time another link may be named the second time. If only its
key was taken, its address may have come in under another key since.
-/

namespace ShortLinks

namespace LinkIndex

/-! ### Links that stay -/

/-- A link stands under this key, perhaps marked since, and the key holds these addresses. -/
structure Seated (index : LinkIndex) (key : String) (urls : List String) (link : Link) : Prop where
  stands : ∃ stored, index.byKey[key]? = some stored ∧ (stored = link ∨ stored = link.markDeleted)
  holds : ∀ url ∈ urls, index.keyByUrl[url]? = some key

section Seated

variable {index : LinkIndex} {key place url : String} {urls : List String} {link own : Link}

theorem holder?_eq_none_iff :
    index.holder? key url = none ↔ index.byKey[key]? = none ∧
      ∀ place, index.keyByUrl[url]? = some place → index.byKey[place]? = none := by
  unfold holder?
  cases index.keyByUrl[url]? with
  | none => simp
  | some place => cases index.byKey[place]? <;> simp [and_comm]

/-- The link that has just come in is seated. -/
theorem seated_put (index : LinkIndex) (own : Link) :
    (index.put (own.key, own)).Seated own.key [own.originalUrl] own where
  stands := ⟨own, by simp, .inl rfl⟩
  holds := by simp

/-- A link that holds an address or a key is seated. -/
theorem exists_seated_of_holder? (found : index.holder? key url = some link) :
    ∃ place urls, index.Seated place urls link ∧ (place = key ∨ url ∈ urls) := by
  unfold holder? at found
  cases holds : index.keyByUrl[url]? with
  | none => exact ⟨key, [], ⟨⟨link, by simpa [holds] using found, .inl rfl⟩, by simp⟩, .inl rfl⟩
  | some place =>
      cases present : index.byKey[place]? with
      | none => exact ⟨key, [], ⟨⟨link, by simpa [holds, present] using found, .inl rfl⟩, by simp⟩,
          .inl rfl⟩
      | some stored =>
          obtain rfl : stored = link := by simpa [holds, present] using found
          exact ⟨place, [url], ⟨⟨stored, present, .inl rfl⟩, by simpa using holds⟩, .inr (by simp)⟩

namespace Seated

/-- A new link comes to another key and to another address. -/
theorem put (seated : index.Seated key urls link)
    (unheld : index.holder? own.key own.originalUrl = none) :
    (index.put (own.key, own)).Seated key urls link := by
  obtain ⟨free, unled⟩ := holder?_eq_none_iff.mp unheld
  obtain ⟨stored, found, same⟩ := seated.stands
  have otherKey : own.key ≠ key := by
    rintro rfl
    rw [free] at found
    cases found
  have otherUrl : ∀ url ∈ urls, own.originalUrl ≠ url := by
    rintro url mem rfl
    rw [unled key (seated.holds _ mem)] at found
    cases found
  constructor
  · exact ⟨stored, by simpa [Std.ExtTreeMap.getElem?_insert, otherKey] using found, same⟩
  · intro url mem
    simpa [Std.ExtTreeMap.getElem?_insert, otherUrl url mem] using seated.holds url mem

theorem tombstone (seated : index.Seated key urls link) (requests : List DeletionRequest) :
    (index.tombstone requests).1.Seated key urls link := by
  obtain ⟨stored, found, same⟩ := seated.stands
  refine ⟨⟨_, by rw [byKey_tombstone, LinkMap.getElem?_tombstone, found]; rfl, ?_⟩, seated.holds⟩
  rcases LinkMap.afterPairs_cases (requests.flatMap DeletionRequest.pairs) key stored with
    unmarked | ⟨pair, -, marked, -⟩
  · rwa [unmarked]
  · rw [marked]
    rcases same with rfl | rfl <;> exact .inr rfl

/-- Taking back a link with another key and another address does not move it. -/
theorem remove (seated : index.Seated key urls link) (otherKey : own.key ≠ key)
    (otherUrl : own.originalUrl ∉ urls) : (index.remove own).Seated key urls link := by
  unfold LinkIndex.remove
  split
  · obtain ⟨stored, found, same⟩ := seated.stands
    constructor
    · exact ⟨stored, by simpa [Std.ExtTreeMap.getElem?_erase, otherKey] using found, same⟩
    · intro url mem
      have apart : own.originalUrl ≠ url := fun eq => otherUrl (eq ▸ mem)
      simpa [Std.ExtTreeMap.getElem?_erase, apart] using seated.holds url mem
  · exact seated

theorem insertEntries (seated : index.Seated key urls link) (fresh : String → String)
    (entries : List (String × Link)) :
    (index.insertEntries fresh entries).index.Seated key urls link := by
  let holds : Draft → Prop := fun d => d.index.Seated key urls link
  have start : holds ⟨index, []⟩ := seated
  have preserved : ∀ d own, holds d → d.index.holder? own.key own.originalUrl = none →
      holds (d.put own) := fun _ _ seated unheld => Seated.put seated unheld
  exact Draft.holds_insertEntries_of_unheld preserved fresh entries start

/-- A seated link is in the way of its key and of its addresses, and is found by the latter. -/
theorem holder?_ne_none (seated : index.Seated place urls link) (way : place = key ∨ url ∈ urls) :
    index.holder? key url ≠ none := by
  intro unheld
  obtain ⟨free, unled⟩ := holder?_eq_none_iff.mp unheld
  obtain ⟨stored, found, -⟩ := seated.stands
  rcases way with rfl | mem
  · rw [free] at found
    cases found
  · rw [unled place (seated.holds url mem)] at found
    cases found

theorem holder?_of_mem (seated : index.Seated place urls link) (mem : url ∈ urls) (key : String) :
    ∃ stored, index.holder? key url = some stored ∧
      (stored = link ∨ stored = link.markDeleted) := by
  obtain ⟨stored, found, same⟩ := seated.stands
  exact ⟨stored, by simp [holder?, seated.holds url mem, found], same⟩

end Seated

end Seated

/-! ### What a batch leaves in its way -/

section Batch

variable {entries : List (String × Link)} {entry : String × Link} {own : Link}

/-- When a batch is done, a link is seated in the way of each of its entries. -/
theorem exists_seated_of_mem (index : LinkIndex) (fresh : String → String)
    (mem : entry ∈ entries) :
    ∃ place urls link, (index.insertEntries fresh entries).index.Seated place urls link ∧
      (place = (entryLink fresh entry).key ∨ entry.2.originalUrl ∈ urls) := by
  induction entries generalizing index with
  | nil => cases mem
  | cons first rest ih =>
      obtain ⟨key, link⟩ := first
      have step := insert_eq index fresh (key, link)
      dsimp only at step
      rw [insertEntries, step]
      cases found : index.holder? (entryLink fresh (key, link)).key
          (entryLink fresh (key, link)).originalUrl with
      | some holder =>
          rcases List.mem_cons.mp mem with rfl | later
          · obtain ⟨place, urls, seated, way⟩ := exists_seated_of_holder? found
            rw [entryLink_originalUrl] at way
            exact ⟨place, urls, holder, seated.insertEntries fresh rest, way⟩
          · exact ih _ later
      | none =>
          rcases List.mem_cons.mp mem with rfl | later
          · have seated := seated_put index (entryLink fresh (key, link))
            exact ⟨_, _, _, seated.insertEntries fresh rest, .inl rfl⟩
          · exact ih _ later

/-- A link that a batch created is that of an entry, and is seated with its address. -/
theorem seated_of_created {index : LinkIndex} {fresh : String → String}
    (mem : own ∈ (index.insertEntries fresh entries).created) :
    (∃ entry ∈ entries, entryLink fresh entry = own) ∧
      (index.insertEntries fresh entries).index.Seated own.key [own.originalUrl] own := by
  induction entries generalizing index with
  | nil => cases mem
  | cons first rest ih =>
      obtain ⟨key, link⟩ := first
      have step := insert_eq index fresh (key, link)
      dsimp only at step
      rw [insertEntries, step] at mem ⊢
      cases found : index.holder? (entryLink fresh (key, link)).key
          (entryLink fresh (key, link)).originalUrl with
      | some holder =>
          simp only [found] at mem ⊢
          obtain ⟨⟨entry, among, made⟩, seated⟩ := ih mem
          exact ⟨⟨entry, .tail _ among, made⟩, seated⟩
      | none =>
          simp only [found] at mem ⊢
          rcases List.mem_cons.mp mem with rfl | later
          · exact ⟨⟨(key, link), List.mem_cons_self, rfl⟩,
              (seated_put index _).insertEntries fresh rest⟩
          · obtain ⟨⟨entry, among, made⟩, seated⟩ := ih later
            exact ⟨⟨entry, .tail _ among, made⟩, seated⟩

end Batch

/-! ### What happens in between -/

namespace Draft

/-- A seated link that is none of those that may be taken back, nor has their keys and addresses. -/
structure Settled (d : Draft) (key : String) (urls : List String) (link : Link) : Prop where
  seated : d.index.Seated key urls link
  otherKeys : ∀ own ∈ d.recent, own.key ≠ key
  otherUrls : ∀ own ∈ d.recent, own.originalUrl ∉ urls

variable {d : Draft} {key : String} {urls : List String} {link own : Link}

theorem Settled.put (settled : d.Settled key urls link)
    (unheld : d.index.holder? own.key own.originalUrl = none) :
    (d.put own).Settled key urls link where
  seated := settled.seated.put unheld
  otherKeys := by
    intro other mem
    rcases List.mem_append.mp mem with earlier | new
    · exact settled.otherKeys other earlier
    · obtain rfl := List.mem_singleton.mp new
      intro same
      exact settled.seated.holder?_ne_none (.inl same.symm) unheld
  otherUrls := by
    intro other mem
    rcases List.mem_append.mp mem with earlier | new
    · exact settled.otherUrls other earlier
    · obtain rfl := List.mem_singleton.mp new
      intro led
      exact settled.seated.holder?_ne_none (.inr led) unheld

theorem Settled.tombstone (settled : d.Settled key urls link) (requests : List DeletionRequest) :
    (d.tombstone requests).Settled key urls link :=
  ⟨settled.seated.tombstone requests, settled.otherKeys, settled.otherUrls⟩

theorem Settled.remove (settled : d.Settled key urls link) (mem : own ∈ d.recent) :
    (d.remove own).Settled key urls link where
  seated := settled.seated.remove (settled.otherKeys own mem) (settled.otherUrls own mem)
  otherKeys other left := settled.otherKeys other (List.mem_of_mem_erase left)
  otherUrls other left := settled.otherUrls other (List.mem_of_mem_erase left)

/-- A link stays seated, whatever comes in, is marked, or is taken back of what came in. -/
theorem seated_after {index : LinkIndex} (seated : index.Seated key urls link)
    {changes : List Change} (along : Along next Allows ⟨index, []⟩ changes) :
    (changes.foldl next ⟨index, []⟩).index.Seated key urls link := by
  let holds : Draft → Prop := fun d => d.Settled key urls link
  have start : holds ⟨index, []⟩ := ⟨seated, by simp, by simp⟩
  have preserved (d : Draft) (change : Change) (settled : holds d) (allowed : d.Allows change) :
      holds (d.next change) :=
    holds_next_of_unheld (fun _ _ settled unheld => Settled.put settled unheld)
      (fun _ requests settled => Settled.tombstone settled requests)
      (fun _ _ settled mem => Settled.remove settled mem) settled allowed
  exact (throughout_of_step preserved start along).last.seated

end Draft

/-! ### The second time -/

/-- The link in the way of an entry, if there is one. -/
def blocker? (index : LinkIndex) (entry : String × Link) : Option Link :=
  index.holder? (entry.2.fillShortUrl entry.1).key entry.2.originalUrl

theorem holder?_entryLink (index : LinkIndex) (fresh : String → String) (entry : String × Link) :
    index.holder? (entryLink fresh entry).key (entryLink fresh entry).originalUrl
      = index.blocker? entry := by
  have own : (entryLink fresh entry).key = (entry.2.fillShortUrl entry.1).key := ensureId_key _ _
  rw [blocker?, own, entryLink_originalUrl]

/-- A batch whose entries all have a link in their way changes nothing, and names these links. -/
theorem insertEntries_of_blocked {index : LinkIndex} (fresh : String → String)
    {entries : List (String × Link)} (blocked : ∀ entry ∈ entries, index.blocker? entry ≠ none) :
    index.insertEntries fresh entries =
      ⟨⟨0, entries.filterMap fun entry => (index.blocker? entry).map (entry.1, ·)⟩, [], index⟩ := by
  induction entries with
  | nil => rfl
  | cons entry rest ih =>
      obtain ⟨key, link⟩ := entry
      obtain ⟨holder, found⟩ := Option.ne_none_iff_exists'.mp (blocked _ List.mem_cons_self)
      have step := insert_eq index fresh (key, link)
      rw [holder?_entryLink, found] at step
      dsimp only at step
      rw [insertEntries, step]
      simp [ih fun entry mem => blocked entry (.tail _ mem), found]

/-- What a batch does to an index when it comes again, after it did `first`. -/
structure Repeated (fresh : String → String) (batch : LinkMap) (first : BatchResult)
    (index : LinkIndex) (second : BatchResult) : Prop where
  inserted : second.report.inserted = 0
  created : second.created = []
  /-- Neither map of the index changes. -/
  index_eq : second.index = index
  /-- The entries are skipped, all of them, each once and in their order. -/
  skipped : second.report.skipped.map (·.1) = batch.toList.map (·.1)
  /-- Each is named with the link in its way. -/
  inWay : ∀ entry ∈ batch.toList, ∃ holder, index.blocker? entry = some holder ∧
    (entry.1, holder) ∈ second.report.skipped
  /-- For an entry that was stored the first time this is its own link, perhaps marked since. -/
  own : ∀ own ∈ first.created, ∃ entry ∈ batch.toList, entryLink fresh entry = own ∧
    ∃ stored, (entry.1, stored) ∈ second.report.skipped ∧
      (stored = own ∨ stored = own.markDeleted)

theorem repeated_of_blocked {fresh anew : String → String} {batch : LinkMap} {first : BatchResult}
    {index : LinkIndex} (blocked : ∀ entry ∈ batch.toList, index.blocker? entry ≠ none)
    (stored : ∀ own ∈ first.created, (∃ entry ∈ batch.toList, entryLink fresh entry = own) ∧
      index.Seated own.key [own.originalUrl] own) :
    Repeated fresh batch first index (index.insertBatch anew batch) := by
  have inWay : ∀ entry ∈ batch.toList, ∃ holder, index.blocker? entry = some holder ∧
      (entry.1, holder) ∈ (index.insertBatch anew batch).report.skipped := by
    intro entry mem
    obtain ⟨holder, found⟩ := Option.ne_none_iff_exists'.mp (blocked entry mem)
    rw [insertBatch, insertEntries_of_blocked anew blocked]
    exact ⟨holder, found, List.mem_filterMap.mpr ⟨entry, mem, by simp [found]⟩⟩
  have skipped : (index.insertBatch anew batch).report.skipped.map (·.1)
      = batch.toList.map (·.1) := by
    rw [insertBatch, insertEntries_of_blocked anew blocked, List.map_filterMap,
      ← List.filterMap_eq_map]
    apply List.filterMap_congr
    intro entry mem
    obtain ⟨holder, found, -⟩ := inWay entry mem
    simp [found]
  have own : ∀ own ∈ first.created, ∃ entry ∈ batch.toList, entryLink fresh entry = own ∧
      ∃ there, (entry.1, there) ∈ (index.insertBatch anew batch).report.skipped ∧
        (there = own ∨ there = own.markDeleted) := by
    intro own created
    obtain ⟨⟨entry, mem, made⟩, seated⟩ := stored own created
    obtain ⟨holder, found, named⟩ := inWay entry mem
    rw [← holder?_entryLink index fresh, made] at found
    obtain ⟨there, held, same⟩ := seated.holder?_of_mem (List.mem_singleton_self _) own.key
    obtain rfl := Option.some.inj (held.symm.trans found)
    exact ⟨entry, mem, made, there, named, same⟩
  refine ⟨?_, ?_, ?_, skipped, inWay, own⟩
  all_goals rw [insertBatch, insertEntries_of_blocked anew blocked]

/-- **A batch that comes again changes nothing**, whatever it asks for, whatever index it came to,
and whatever was inserted, marked, or taken back of what came in since. -/
theorem insertBatch_again (index : LinkIndex) (fresh anew : String → String) (batch : LinkMap)
    {changes : List Change}
    (along : Along Draft.next Draft.Allows ⟨(index.insertBatch fresh batch).index, []⟩ changes) :
    let first := index.insertBatch fresh batch
    let later := (changes.foldl Draft.next ⟨first.index, []⟩).index
    Repeated fresh batch first later (later.insertBatch anew batch) := by
  dsimp only
  apply repeated_of_blocked
  · intro entry mem
    obtain ⟨place, urls, link, seated, way⟩ := exists_seated_of_mem index fresh mem
    rw [← holder?_entryLink _ fresh]
    refine (Draft.seated_after seated along).holder?_ne_none ?_
    rwa [entryLink_originalUrl]
  · intro own created
    obtain ⟨made, seated⟩ := seated_of_created created
    exact ⟨made, Draft.seated_after seated along⟩

/-- The address of a skipped entry comes in under another key and is deleted; another link comes in
and is taken back. -/
def changesBetween : List Change :=
  [.insert "7" "z" ⟨"", "", "c.io", some "ann", false⟩, .tombstone [⟨"ann", ["z"]⟩],
    .insert "8" "n" ⟨"", "", "d.io", none, false⟩, .remove ⟨"8", "n", "d.io", none, false⟩]

theorem insertBatch_again_clashingBatch :
    let first := twinsIndex.insertBatch id clashingBatch
    let later := (changesBetween.foldl Draft.next ⟨first.index, []⟩).index
    Along Draft.next Draft.Allows ⟨first.index, []⟩ changesBetween ∧
      Repeated id clashingBatch first later (later.insertBatch id clashingBatch) := by
  have along : Along Draft.next Draft.Allows ⟨(twinsIndex.insertBatch id clashingBatch).index, []⟩
      changesBetween := by
    refine ⟨trivial, trivial, trivial, ?_, trivial⟩
    simp only [Draft.Allows]
    decide +kernel
  exact ⟨along, insertBatch_again twinsIndex id id clashingBatch along⟩

/-- The second entry is skipped again, for a link that came in meanwhile. -/
example :
    let later := (changesBetween.foldl Draft.next
      ⟨(twinsIndex.insertBatch id clashingBatch).index, []⟩).index
    (later.insertBatch id clashingBatch).report
      = ⟨0, [("a", ⟨"a", "k", "a.io", none, false⟩), ("b", ⟨"7", "z", "c.io", some "ann", true⟩),
          ("c", ⟨"", "", "b.io", none, false⟩)]⟩ := by
  decide +kernel

end LinkIndex

end ShortLinks
