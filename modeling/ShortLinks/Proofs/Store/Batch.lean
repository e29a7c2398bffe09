import ShortLinks.Proofs.Keeper.LinkIndex
import ShortLinks.Proofs.Store.Reconcile

/-!
One batch against a table in memory and the index of its keeper.

* `BatchCall` — a batch together with everything that its outcome depends on besides the two: the
  identities it generates and the orders in which its entries come up.
* `BatchCall.filed` — what the index makes of the batch: an entry is stored under its own key or
  skipped, and under the key of a skipped entry nothing changes.
* `getElem?_settle` — the table afterwards, entry by entry: a named key holds what the index
  holds, every other key what the merge left there, less what is withdrawn.
* `of_getElem?_settle` — so whatever stands in the table afterwards stands in the index too, or
  stood in the table before.
-/

namespace ShortLinks

/-- A batch, the identities generated for it, and the orders in which its entries are taken. -/
structure BatchCall where
  batch : LinkMap
  /-- The identity generated for the entry of each requested key. -/
  fresh : String → String
  assigns : ∀ key, fresh key ≠ ""
  /-- The entries in the order in which they are normalised. -/
  taken : List (String × Link)
  taken_perm : taken.Perm batch.toList
  /-- The normal entries in the order in which they are merged into the table. -/
  merged : List (String × Link)
  merged_perm : merged.Perm (Store.normaliseEntries fresh taken).toList

namespace BatchCall

/-- The call that takes all entries by ascending keys. -/
def inKeyOrder (fresh : String → String) (assigns : ∀ key, fresh key ≠ "") (batch : LinkMap) :
    BatchCall where
  batch := batch
  fresh := fresh
  assigns := assigns
  taken := batch.toList
  taken_perm := .refl _
  merged := (Store.normaliseBatch fresh batch).toList
  merged_perm := .refl _

/-- The call that takes all entries by descending keys and generates the requested keys behind a
tag as identities. -/
def tagged (tag : String) (entries : List (String × Link)) : BatchCall :=
  let batch : LinkMap := .ofList entries
  let fresh (key : String) := "#" ++ tag ++ key
  let normal := Store.normaliseEntries fresh batch.toList.reverse
  { batch := batch
    fresh := fresh
    assigns := fun key => by simp [fresh]
    taken := batch.toList.reverse
    taken_perm := List.reverse_perm batch.toList
    merged := normal.toList.reverse
    merged_perm := List.reverse_perm normal.toList }

/-- The batch under its own keys. -/
def normal (call : BatchCall) : LinkMap := Store.normaliseEntries call.fresh call.taken

/-- What an index makes of the batch. -/
def filed (call : BatchCall) (index : LinkIndex) : LinkIndex.BatchResult :=
  index.insertBatch call.fresh call.normal

/-- The requested keys that an index skips, each with the link in its way. -/
def skipped (call : BatchCall) (index : LinkIndex) : List (String × Link) :=
  (call.filed index).report.skipped

/-- The table after the optimistic merge. -/
def merge (call : BatchCall) (table : LinkMap) : LinkMap := Store.mergeEntries table call.merged

/-- The table after the merge and its correction. -/
def settle (call : BatchCall) (table : LinkMap) (index : LinkIndex) : LinkMap :=
  Store.reconcile call.normal (call.merge table) (call.skipped index)

end BatchCall

namespace Store

variable {σ : Type} [Keeper σ]

/-- Inserts a batch whose entries come up in given orders. -/
def insertInOrder (store : Store) (keeper : σ) (call : BatchCall) : Outcome σ BatchReport :=
  if call.batch.isEmpty then ⟨.ok {}, store, keeper⟩
  else insertNormalised store keeper call.fresh call.normal call.merged

/-- Inserting a batch takes its entries by ascending keys. -/
theorem insertBatch_eq_insertInOrder (store : Store) (keeper : σ) (fresh : String → String)
    (assigns : ∀ key, fresh key ≠ "") (batch : LinkMap) :
    insertBatch store keeper fresh batch
      = insertInOrder store keeper (.inKeyOrder fresh assigns batch) := rfl

end Store

namespace BatchCall

variable {call : BatchCall} {table : LinkMap} {index : LinkIndex} {key : String} {link : Link}

/-! ### Normal form -/

theorem normaliseEntries_eq_insertAll (fresh : String → String) (entries : List (String × Link)) :
    Store.normaliseEntries fresh entries
      = LinkMap.insertAll ∅ (entries.map (Store.normaliseEntry fresh)) := by
  simp only [Store.normaliseEntries, LinkMap.insertAll, List.foldl_map]

/-- Every normal entry comes from an entry of the batch. -/
theorem exists_of_normal (found : call.normal[key]? = some link) :
    ∃ entry ∈ call.batch.toList, link.key = key ∧ LinkIndex.entryLink call.fresh entry = link := by
  rw [normal, normaliseEntries_eq_insertAll] at found
  rcases LinkMap.of_getElem?_insertAll found with nowhere | mem
  · simp at nowhere
  · obtain ⟨entry, entryMem, made⟩ := List.mem_map.mp mem
    obtain ⟨rfl, rfl⟩ := Prod.mk.inj made
    exact ⟨entry, call.taken_perm.mem_iff.mp entryMem, rfl, rfl⟩

theorem normal_keyed (call : BatchCall) : LinkMap.Keyed call.normal := by
  intro key link found
  obtain ⟨-, -, own, -⟩ := exists_of_normal found
  exact own

theorem fillShortUrl_key_self (link : Link) : link.fillShortUrl link.key = link := by
  unfold Link.fillShortUrl
  split
  · next blank =>
      have blank : link.shortUrl = "" := String.isEmpty_iff.mp blank
      have key_blank : link.key = "" := by
        rw [Link.key, blank]
        decide
      rw [key_blank, ← blank]
  · rfl

theorem entryLink_id_ne {fresh : String → String} (assigns : ∀ key, fresh key ≠ "")
    (entry : String × Link) : (LinkIndex.entryLink fresh entry).id ≠ "" := by
  unfold LinkIndex.entryLink Link.ensureId
  split
  · exact assigns entry.1
  · next identified => exact fun blank => identified (String.isEmpty_iff.mpr blank)

/-- An index stores a normal entry as it is. -/
theorem entryLink_normal (found : call.normal[key]? = some link) :
    LinkIndex.entryLink call.fresh (key, link) = link := by
  obtain ⟨entry, -, rfl, rfl⟩ := exists_of_normal found
  have identified : (LinkIndex.entryLink call.fresh entry).id.isEmpty = false :=
    Bool.eq_false_iff.mpr fun blank =>
      entryLink_id_ne call.assigns entry (String.isEmpty_iff.mp blank)
  rw [LinkIndex.entryLink, fillShortUrl_key_self, Link.ensureId, identified]
  rfl

theorem mem_merged : (key, link) ∈ call.merged ↔ call.normal[key]? = some link := by
  rw [call.merged_perm.mem_iff, Std.ExtTreeMap.mem_toList_iff_getElem?_eq_some]
  rfl

/-! ### Fresh identities -/

/-- The entries carry no identity, and none that is generated for them is borne by a link of the
table. -/
def FreshFor (call : BatchCall) (table : LinkMap) : Prop :=
  ∀ entry ∈ call.batch.toList,
    entry.2.id = "" ∧ ∀ old ∈ table.toList, call.fresh entry.1 ≠ old.2.id

instance (call : BatchCall) (table : LinkMap) : Decidable (call.FreshFor table) :=
  inferInstanceAs (Decidable (∀ entry ∈ call.batch.toList,
    entry.2.id = "" ∧ ∀ old ∈ table.toList, call.fresh entry.1 ≠ old.2.id))

theorem entryLink_id {fresh : String → String} {entry : String × Link} (blank : entry.2.id = "") :
    (LinkIndex.entryLink fresh entry).id = fresh entry.1 := by
  have unassigned : (entry.2.fillShortUrl entry.1).id.isEmpty = true := by
    rw [String.isEmpty_iff, ← blank]
    unfold Link.fillShortUrl
    split <;> rfl
  simp [LinkIndex.entryLink, Link.ensureId, unassigned, Link.withId]

/-- No normal entry of a fresh batch bears the identity of a link of the table. -/
theorem FreshFor.normal_id_ne {table : LinkMap} (isFresh : call.FreshFor table) {mine : Link}
    (found : call.normal[key]? = some mine) {other : String} {old : Link}
    (present : table[other]? = some old) : mine.id ≠ old.id := by
  obtain ⟨entry, mem, -, rfl⟩ := exists_of_normal found
  obtain ⟨blank, unborne⟩ := isFresh entry mem
  rw [entryLink_id blank]
  exact unborne (other, old) (Std.ExtTreeMap.mem_toList_iff_getElem?_eq_some.mpr present)

/-- A fresh batch withdraws no link of the table. -/
theorem FreshFor.not_withdrawn {table : LinkMap} (isFresh : call.FreshFor table)
    (present : table[key]? = some link) (skipped : List (String × Link)) :
    ¬ Store.Withdrawn call.normal skipped key link := by
  intro withdrawn
  obtain ⟨mine, entry, sameId⟩ := (Option.any_eq_true _ _).mp withdrawn.requested.2
  exact isFresh.normal_id_ne entry present (of_decide_eq_true sameId)

/-! ### In the index -/

section Filed

variable (sound : index.Sound)
include sound

theorem filed_sound (call : BatchCall) : (call.filed index).index.Sound :=
  (sound.insertBatch_filed call.fresh call.normal).sound

/-- No batch brings a second link to an address into the index. -/
theorem filed_uniqueUrls (call : BatchCall) (unique : LinkMap.UniqueUrls index.byKey) :
    LinkMap.UniqueUrls (call.filed index).index.byKey :=
  (sound.insertBatch_filed call.fresh call.normal).uniqueUrls unique

/-- Links of the index stay. -/
theorem filed_kept (call : BatchCall) (found : index.byKey[key]? = some link) :
    (call.filed index).index.byKey[key]? = some link :=
  (sound.insertBatch_filed call.fresh call.normal).kept key link found

/-- Every skipped entry is named with a link that the index holds. -/
theorem holder_stored (call : BatchCall) : ∀ skip ∈ call.skipped index,
    (call.filed index).index.byKey[skip.2.key]? = some skip.2 := fun skip mem =>
  ((sound.insertBatch_filed call.fresh call.normal).skipped skip mem).1

/-- No key is skipped twice. -/
theorem skipped_nodup (call : BatchCall) : ((call.skipped index).map (·.1)).Nodup :=
  (LinkMap.keys_nodup call.normal).sublist (sound.insertBatch_filed call.fresh call.normal).order

/-- A skipped entry is one of the batch, and its holder has its address or its key. -/
theorem exists_of_skip {holder : Link} (skip : (key, holder) ∈ call.skipped index) :
    ∃ mine, call.normal[key]? = some mine ∧
      (holder.originalUrl = mine.originalUrl ∨ holder.key = key) := by
  obtain ⟨-, mine, mem, why⟩ :=
    (sound.insertBatch_filed call.fresh call.normal).skipped _ skip
  have found : call.normal[key]? = some mine :=
    Std.ExtTreeMap.mem_toList_iff_getElem?_eq_some.mp mem
  rw [entryLink_normal found, call.normal_keyed key mine found] at why
  exact ⟨mine, found, why⟩

/-- A stored entry finds its key and its address free and is the only link to its address
afterwards. -/
theorem stored_normal (found : call.normal[key]? = some link)
    (notSkipped : key ∉ (call.skipped index).map (·.1)) :
    index.byKey[key]? = none ∧ ¬ LinkMap.Leads index.byKey link.originalUrl ∧
      (call.filed index).index.byKey[key]? = some link ∧
      ∀ (other : String) (twin : Link), (call.filed index).index.byKey[other]? = some twin →
        twin.originalUrl = link.originalUrl → other = key ∧ twin = link := by
  have filed := sound.insertBatch_filed call.fresh call.normal
  have stays := filed.stored (key, link)
    (Std.ExtTreeMap.mem_toList_iff_getElem?_eq_some.mpr found)
    fun holder skip => notSkipped (List.mem_map.mpr ⟨_, skip, rfl⟩)
  rw [entryLink_normal found, call.normal_keyed key link found] at stays
  obtain ⟨free, unled, present, sole⟩ := stays
  refine ⟨free, unled, present, fun other twin foundTwin leads => ?_⟩
  obtain rfl := sole other twin foundTwin leads
  exact ⟨(filed.sound.keyed other twin foundTwin).symm.trans (call.normal_keyed key twin found),
    rfl⟩

/-- Whatever comes into the index is a stored entry of the batch. -/
theorem of_filed (found : (call.filed index).index.byKey[key]? = some link) :
    index.byKey[key]? = some link ∨
      index.byKey[key]? = none ∧ call.normal[key]? = some link ∧
        key ∉ (call.skipped index).map (·.1) := by
  rcases (sound.insertBatch_filed call.fresh call.normal).added key link found with
    old | ⟨free, ⟨entryKey, mine⟩, mem, own, notSkipped⟩
  · exact .inl old
  · have entry : call.normal[entryKey]? = some mine :=
      Std.ExtTreeMap.mem_toList_iff_getElem?_eq_some.mp mem
    obtain rfl : mine = link := (entryLink_normal entry).symm.trans own
    obtain rfl : entryKey = key := (call.normal_keyed entryKey mine entry).symm.trans
      ((call.filed_sound sound).keyed key mine found)
    refine .inr ⟨free, entry, fun requested => ?_⟩
    obtain ⟨⟨_, holder⟩, skip, rfl⟩ := List.mem_map.mp requested
    exact notSkipped holder skip

/-- Under the key of a skipped entry the index stays as it was. -/
theorem filed_skipped (requested : key ∈ (call.skipped index).map (·.1)) :
    (call.filed index).index.byKey[key]? = index.byKey[key]? := by
  refine Option.ext fun link => ⟨fun found => ?_, call.filed_kept sound⟩
  rcases of_filed sound found with old | ⟨-, -, notRequested⟩
  · exact old
  · exact absurd requested notRequested

end Filed

/-! ### In the table -/

theorem merge_kept (call : BatchCall) (found : table[key]? = some link) :
    (call.merge table)[key]? = some link :=
  Store.getElem?_mergeEntries_of_some found

/-- Whatever the merge lets in is an entry of the batch whose key and address are free. -/
theorem of_merge (found : (call.merge table)[key]? = some link) :
    table[key]? = some link ∨
      table[key]? = none ∧ call.normal[key]? = some link ∧
        ¬ LinkMap.Leads table link.originalUrl := by
  rcases Store.of_getElem?_mergeEntries found with old | ⟨free, mem, unled⟩
  · exact .inl old
  · exact .inr ⟨free, mem_merged.mp mem, unled⟩

/-- An entry of the batch finds its key taken after the merge, or its address led to. -/
theorem merge_covers (call : BatchCall) (table : LinkMap) (mine : call.normal[key]? = some link) :
    (call.merge table)[key]? ≠ none ∨ LinkMap.Leads (call.merge table) link.originalUrl :=
  Store.mergeEntries_covers (mem_merged.mpr mine)

theorem merge_keyed (call : BatchCall) (keyed : LinkMap.Keyed table) :
    LinkMap.Keyed (call.merge table) := by
  intro key link found
  rcases of_merge found with old | ⟨-, mine, -⟩
  · exact keyed key link old
  · exact call.normal_keyed key link mine

theorem merge_uniqueUrls (call : BatchCall) (unique : LinkMap.UniqueUrls table) :
    LinkMap.UniqueUrls (call.merge table) :=
  Store.uniqueUrls_mergeEntries unique call.merged

section Settle

variable (sound : index.Sound)
include sound

/-- **The table after a batch, entry by entry.** -/
theorem getElem?_settle (call : BatchCall) (table : LinkMap) (key : String) (link : Link) :
    (call.settle table index)[key]? = some link ↔
      (if key ∈ Store.named (call.skipped index) then (call.filed index).index.byKey[key]?
        else (call.merge table)[key]?) = some link ∧
        ¬ Store.Withdrawn call.normal (call.skipped index) key link :=
  Store.getElem?_reconcile call.normal (call.holder_stored sound) (call.skipped_nodup sound)
    (call.merge table) key link

/-- What stands in the table after a batch stands in the index, or stood in the table before
under a key that no skipped entry names. -/
theorem of_getElem?_settle (found : (call.settle table index)[key]? = some link) :
    (call.filed index).index.byKey[key]? = some link ∨
      table[key]? = some link ∧ key ∉ Store.named (call.skipped index) := by
  obtain ⟨stands, stays⟩ := (getElem?_settle sound call table key link).mp found
  by_cases named : key ∈ Store.named (call.skipped index)
  · rw [if_pos named] at stands
    exact .inl stands
  · rw [if_neg named] at stands
    rcases of_merge stands with old | ⟨-, mine, -⟩
    · exact .inr ⟨old, named⟩
    · -- A skipped entry that no other one brings back would have been withdrawn.
      have notSkipped : key ∉ (call.skipped index).map (·.1) := fun requested =>
        stays ((Store.withdrawn_iff_of_notMem named link).mpr ⟨requested, by simp [mine]⟩)
      exact .inl (stored_normal sound mine notSkipped).2.2.1

theorem settle_keyed (call : BatchCall) (keyed : LinkMap.Keyed table) :
    LinkMap.Keyed (call.settle table index) := by
  intro key link found
  rcases of_getElem?_settle sound found with stored | ⟨old, -⟩
  · exact (call.filed_sound sound).keyed key link stored
  · exact keyed key link old

end Settle

/-! ### Calls without entries -/

/-- A call without entries has an empty normal form and merges nothing. -/
theorem normal_of_isEmpty (blank : call.batch.isEmpty = true) :
    call.normal = ∅ ∧ call.merged = [] := by
  have nothing : (∅ : LinkMap).toList = [] := rfl
  have taken : call.taken.Perm [] := by
    rw [← nothing, ← Std.ExtTreeMap.isEmpty_iff.mp blank]
    exact call.taken_perm
  have normal : call.normal = ∅ := by
    rw [BatchCall.normal, taken.eq_nil]
    rfl
  have merged : call.merged.Perm [] := by
    rw [← nothing, ← normal]
    exact call.merged_perm
  exact ⟨normal, merged.eq_nil⟩

/-- A call without entries leaves table and index as they are. -/
theorem filed_of_isEmpty (blank : call.batch.isEmpty = true)
    (table : LinkMap) (index : LinkIndex) :
    (call.filed index).report = {} ∧ (call.filed index).index = index ∧
      call.settle table index = table := by
  obtain ⟨normal, merged⟩ := normal_of_isEmpty blank
  have filed : call.filed index = ⟨{}, [], index⟩ := by
    rw [BatchCall.filed, normal]
    rfl
  have skipped : call.skipped index = [] := by
    rw [BatchCall.skipped, filed]
  refine ⟨by rw [filed], by rw [filed], ?_⟩
  rw [BatchCall.settle, skipped, BatchCall.merge, merged]
  rfl

end BatchCall

end ShortLinks
