import Mathlib.Data.List.Dedup
import ShortLinks.Proofs.Store.InMemory

/-!
What the report of a batch says about its entries.

* `Accounts` — a report accounts for entries that go by these names: their number is the number of
  stored and skipped ones, and whatever it does not name is stored.
* `accounts_ownKeys` — a report accounts for the entries by their own keys, of entries that share
  one the last.
* `accounts_requested_iff` — for the entries as the caller named them it accounts exactly if no two
  of them share a key, it names only requested keys, and every entry whose own key it names is named
  itself or was stored before.
* `batch_accounts_iff` — so after any usage of store and keeper in memory.

A batch is filed under the own keys of its entries before the keeper sees it. Entries that share a
key fall together there, and the report knows the own keys only.
-/

namespace ShortLinks

open LinkIndex (entryLink)

/-- A report accounts for entries that go by these names, given what it means that one is stored. -/
structure BatchReport.Accounts (report : BatchReport) (names : List String)
    (stored : String → Prop) : Prop where
  total : report.inserted + report.skipped.length = names.length
  distinct : (report.skipped.map (·.1)).Nodup
  named : ∀ skip ∈ report.skipped, skip.1 ∈ names
  stored : ∀ name ∈ names, name ∉ report.skipped.map (·.1) → stored name

/-- Under this key stands a link to this address. -/
def LinkIndex.Holds (index : LinkIndex) (key url : String) : Prop :=
  ∃ link, index.byKey[key]? = some link ∧ link.originalUrl = url

namespace BatchCall

variable {call : BatchCall} {index : LinkIndex}

/-- The key of an entry, under which the call files it. -/
def ownKey (call : BatchCall) (entry : String × Link) : String := (entryLink call.fresh entry).key

/-- The own keys of the entries. -/
def ownKeys (call : BatchCall) : List String := call.batch.toList.map call.ownKey

/-- The keys under which the caller requested the entries. -/
def requested (call : BatchCall) : List String := call.batch.toList.map (·.1)

theorem taken_map_ownKey : (call.taken.map call.ownKey).Perm call.ownKeys :=
  call.taken_perm.map call.ownKey

theorem normaliseEntry_fst (call : BatchCall) (entries : List (String × Link)) :
    (entries.map (Store.normaliseEntry call.fresh)).map (·.1) = entries.map call.ownKey := by
  rw [List.map_map]
  rfl

/-- The keys of the normal form are the own keys of the entries. -/
theorem mem_ownKeys_iff {key : String} :
    key ∈ call.ownKeys ↔ ∃ link, call.normal[key]? = some link := by
  constructor
  · intro mem
    refine Option.ne_none_iff_exists'.mp ?_
    rw [normal, normaliseEntries_eq_insertAll]
    refine LinkMap.getElem?_insertAll_ne_none ?_
    rw [normaliseEntry_fst]
    exact taken_map_ownKey.mem_iff.mpr mem
  · rintro ⟨link, found⟩
    obtain ⟨entry, mem, own, rfl⟩ := exists_of_normal found
    exact List.mem_map.mpr ⟨entry, mem, own⟩

/-- The normal form has an entry for each of the own keys. -/
theorem normal_length (call : BatchCall) :
    call.normal.toList.length = call.ownKeys.dedup.length := by
  have same : (call.normal.toList.map (·.1)).Perm call.ownKeys.dedup := by
    refine (List.perm_ext_iff_of_nodup (LinkMap.keys_nodup _) (List.nodup_dedup _)).mpr ?_
    intro key
    rw [List.mem_dedup, mem_ownKeys_iff, List.mem_map]
    constructor
    · rintro ⟨entry, mem, rfl⟩
      exact ⟨entry.2, Std.ExtTreeMap.mem_toList_iff_getElem?_eq_some.mp mem⟩
    · rintro ⟨link, found⟩
      exact ⟨(key, link), Std.ExtTreeMap.mem_toList_iff_getElem?_eq_some.mpr found, rfl⟩
  rw [← same.length_eq, List.length_map]

/-- Where no two entries share a key, each of them is in the normal form. -/
theorem normal_of_apart (apart : call.ownKeys.Nodup) {entry : String × Link}
    (mem : entry ∈ call.batch.toList) :
    call.normal[call.ownKey entry]? = some (entryLink call.fresh entry) := by
  rw [normal, normaliseEntries_eq_insertAll]
  refine LinkMap.getElem?_insertAll_of_mem ?_ ?_
  · rw [normaliseEntry_fst]
    exact taken_map_ownKey.nodup_iff.mpr apart
  · exact List.mem_map.mpr ⟨entry, call.taken_perm.mem_iff.mpr mem, rfl⟩

section Accounts

variable (sound : index.Sound)
include sound

/-- **A report accounts for the entries by their own keys.** Of entries that share a key, one is
stored or stands for the others. -/
theorem accounts_ownKeys (call : BatchCall) :
    (call.filed index).report.Accounts call.ownKeys.dedup fun key =>
      ∃ entry ∈ call.batch.toList, call.ownKey entry = key ∧
        (call.filed index).index.byKey[key]? = some (entryLink call.fresh entry) where
  total := by
    rw [← normal_length, filed, LinkIndex.insertBatch, LinkIndex.insertEntries_length]
  distinct := call.skipped_nodup sound
  named := by
    intro skip mem
    obtain ⟨mine, found, -⟩ := exists_of_skip sound mem
    exact List.mem_dedup.mpr (mem_ownKeys_iff.mpr ⟨mine, found⟩)
  stored := by
    intro key mem notSkipped
    obtain ⟨mine, found⟩ := mem_ownKeys_iff.mp (List.mem_dedup.mp mem)
    obtain ⟨entry, entryMem, own, rfl⟩ := exists_of_normal found
    obtain ⟨-, -, present, -⟩ := stored_normal sound found notSkipped
    exact ⟨entry, entryMem, own, present⟩

/-- **When a report accounts for the entries as the caller named them.** -/
theorem accounts_requested_iff (call : BatchCall) :
    ((call.filed index).report.Accounts call.requested fun key =>
        ∀ mine, call.batch[key]? = some mine →
          (call.filed index).index.Holds (call.ownKey (key, mine)) mine.originalUrl) ↔
      call.ownKeys.Nodup ∧ (∀ skip ∈ call.skipped index, skip.1 ∈ call.requested) ∧
        ∀ entry ∈ call.batch.toList, call.ownKey entry ∈ (call.skipped index).map (·.1) →
          entry.1 ∈ (call.skipped index).map (·.1) ∨
            index.Holds (call.ownKey entry) entry.2.originalUrl := by
  have own := accounts_ownKeys sound call
  have entries : call.requested.length = call.ownKeys.length := by
    rw [requested, ownKeys, List.length_map, List.length_map]
  constructor
  · rintro ⟨total, -, named, stored⟩
    refine ⟨?_, named, fun entry mem skipped => ?_⟩
    · -- The own keys are as many as the entries only if none comes twice.
      have same : call.ownKeys.dedup.length = call.ownKeys.length := by
        rw [← own.total, total, entries]
      exact List.dedup_eq_self.mp ((List.dedup_sublist _).eq_of_length same)
    · refine or_iff_not_imp_left.mpr fun unnamed => ?_
      have holds := stored entry.1 (List.mem_map_of_mem mem) unnamed entry.2
        (Std.ExtTreeMap.mem_toList_iff_getElem?_eq_some.mp mem)
      rwa [LinkIndex.Holds, filed_skipped sound skipped] at holds
  · rintro ⟨apart, named, renamed⟩
    refine ⟨?_, own.distinct, named, fun key mem unnamed mine found => ?_⟩
    · rw [own.total, List.dedup_eq_self.mpr apart, entries]
    · have mem : (key, mine) ∈ call.batch.toList :=
        Std.ExtTreeMap.mem_toList_iff_getElem?_eq_some.mpr found
      by_cases skipped : call.ownKey (key, mine) ∈ (call.skipped index).map (·.1)
      · rw [LinkIndex.Holds, filed_skipped sound skipped]
        exact (renamed (key, mine) mem skipped).resolve_left unnamed
      · obtain ⟨-, -, present, -⟩ := stored_normal sound (normal_of_apart apart mem) skipped
        exact ⟨_, present, LinkIndex.entryLink_originalUrl _ _⟩

end Accounts

/-- If every entry is requested under its own key, the report accounts for all. -/
theorem accounts_requested (sound : index.Sound)
    (own : ∀ entry ∈ call.batch.toList, call.ownKey entry = entry.1) :
    (call.filed index).report.Accounts call.requested fun key =>
      ∀ mine, call.batch[key]? = some mine →
        (call.filed index).index.Holds (call.ownKey (key, mine)) mine.originalUrl := by
  have same : call.ownKeys = call.requested := List.map_congr_left own
  refine (accounts_requested_iff sound call).mpr
    ⟨?_, fun skip mem => ?_, fun entry mem skipped => ?_⟩
  · exact same ▸ LinkMap.keys_nodup call.batch
  · obtain ⟨mine, found, -⟩ := exists_of_skip sound mem
    exact same ▸ mem_ownKeys_iff.mpr ⟨mine, found⟩
  · exact .inl (own entry mem ▸ skipped)

end BatchCall

namespace Store

/-- **When a report accounts for a batch**: whatever was done with store and keeper in memory, a
batch succeeds, and its report accounts for the entries by their own keys. For the entries as the
caller named them it accounts exactly if no two of them share a key, it names requested keys only,
and every entry whose own key it names is named itself or was stored before. -/
theorem batch_accounts_iff (usages : List Usage) (call : BatchCall) :
    ∃ report store keeper,
      (inUse usages).1.insertInOrder (inUse usages).2 call = ⟨.ok report, store, keeper⟩ ∧
      (report.Accounts call.ownKeys.dedup fun key =>
        ∃ entry ∈ call.batch.toList, call.ownKey entry = key ∧
          keeper.links.byKey[key]? = some (entryLink call.fresh entry)) ∧
      ((report.Accounts call.requested fun key => ∀ mine, call.batch[key]? = some mine →
          keeper.links.Holds (call.ownKey (key, mine)) mine.originalUrl) ↔
        call.ownKeys.Nodup ∧ (∀ skip ∈ report.skipped, skip.1 ∈ call.requested) ∧
          ∀ entry ∈ call.batch.toList, call.ownKey entry ∈ report.skipped.map (·.1) →
            entry.1 ∈ report.skipped.map (·.1) ∨
              (inUse usages).2.links.Holds (call.ownKey entry) entry.2.originalUrl) := by
  have sound := (orderly_inUse usages).sound
  obtain ⟨report, ok⟩ := Write.exists_report (inUse usages).1 (inUse usages).2 call
  obtain ⟨rfl, -, index⟩ := insertInOrder_of_ok ok
  generalize (inUse usages).1.insertInOrder (inUse usages).2 call = outcome at ok index ⊢
  obtain ⟨answer, store, keeper⟩ := outcome
  dsimp only at ok
  change keeper.links = _ at index
  refine ⟨_, store, keeper, by rw [ok], ?_⟩
  rw [index]
  exact ⟨call.accounts_ownKeys sound, call.accounts_requested_iff sound⟩

/-- Two entries that share a key. -/
def sharedKey : BatchCall :=
  .tagged "" [("a", ⟨"X", "k", "u1", none, false⟩), ("b", ⟨"Y", "k", "u2", none, false⟩)]

/-- What inserting them does. -/
def sharedKeyInserted : Outcome MemoryKeeper BatchReport :=
  (inUse []).1.insertInOrder (inUse []).2 sharedKey

/-- One of the entries is lost, and the report does not say so. -/
theorem sharedKey_lost :
    sharedKeyInserted.answer = .ok ⟨1, []⟩ ∧
      sharedKey.requested = ["a", "b"] ∧
      sharedKeyInserted.keeper.links.byKey.toList = [("k", ⟨"X", "k", "u1", none, false⟩)] ∧
      ¬ (BatchReport.mk 1 []).Accounts sharedKey.requested fun key =>
        ∀ mine, sharedKey.batch[key]? = some mine →
          sharedKeyInserted.keeper.links.Holds (sharedKey.ownKey (key, mine)) mine.originalUrl := by
  have requested : sharedKey.requested = ["a", "b"] := by decide +kernel
  refine ⟨rfl, requested, by decide +kernel, fun accounts => ?_⟩
  have total := accounts.total
  rw [requested] at total
  exact absurd total (by decide)

end Store

end ShortLinks
