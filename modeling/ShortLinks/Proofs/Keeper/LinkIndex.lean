import ShortLinks.Keeper.LinkIndex
import ShortLinks.Proofs.Link.Table

/-!
The index of stored links, operation by operation.

* `Sound` — the two maps of an index fit together: links stand under their own keys, and an
  address is held exactly when a link leads to it. Tables with several links to one address have
  sound indexes too.
* `Fit` — the half of it that speaks of addresses. It holds of the index of any table.
* `insert_eq`, `Decision`, `Fit.decision` — an insertion either answers with the link in the way and
  changes nothing, or key and address are free and it stores the one link that it answers with.
* `Insertion`, `Sound.insertion` — in a sound index the link in the way stands under its own key.
* `Filed`, `insertEntries_filed` — what a batch does to a sound index, entry by entry: old links
  stay, an entry is either stored or named in the report with the link in its way, and nothing
  else comes in.
* `Sound.ofMap_byKey` — a sound index can be taken anew from its table, if addresses are unique.
* `insertEntries_append` — a batch can be inserted in two parts.
* `Creates`, `insertEntries_creates` — the links that a batch stores, in order, are those of the
  entries that the report does not name; the report counts them (`insertEntries_inserted`), and no
  two of them lead to one address (`insertEntries_urls`).
-/

namespace ShortLinks

namespace LinkIndex

/-- The two maps of an index fit together. -/
structure Sound (index : LinkIndex) : Prop where
  /-- Links stand under their own keys. -/
  keyed : LinkMap.Keyed index.byKey
  /-- The address of every link has a holder. -/
  held : ∀ (key : String) (link : Link), index.byKey[key]? = some link →
    ∃ holder, index.keyByUrl[link.originalUrl]? = some holder
  /-- The holder of an address leads to it. -/
  leads : ∀ (url key : String), index.keyByUrl[url]? = some key →
    ∃ link, index.byKey[key]? = some link ∧ link.originalUrl = url

/-- Addresses are held exactly where links lead to them. Links may stand under any keys. -/
structure Fit (index : LinkIndex) : Prop where
  /-- The address of every link has a holder. -/
  held : ∀ (key : String) (link : Link), index.byKey[key]? = some link →
    ∃ holder, index.keyByUrl[link.originalUrl]? = some holder
  /-- The holder of an address leads to it. -/
  leads : ∀ (url key : String), index.keyByUrl[url]? = some key →
    ∃ link, index.byKey[key]? = some link ∧ link.originalUrl = url

theorem Sound.fit {index : LinkIndex} (sound : index.Sound) : index.Fit := ⟨sound.held, sound.leads⟩

theorem fit_empty : Fit {} where
  held := by simp
  leads := by simp

theorem sound_empty : Sound {} := ⟨LinkMap.keyed_empty, fit_empty.held, fit_empty.leads⟩

@[simp] theorem byKey_put (index : LinkIndex) (entry : String × Link) :
    (index.put entry).byKey = index.byKey.insert entry.1 entry.2 := rfl

@[simp] theorem keyByUrl_put (index : LinkIndex) (entry : String × Link) :
    (index.put entry).keyByUrl = index.keyByUrl.insert entry.2.originalUrl entry.1 := rfl

/-- A link can be put into an index under a free key. -/
theorem Fit.put {index : LinkIndex} (fit : index.Fit) {own : String}
    (free : index.byKey[own]? = none) (link : Link) : (index.put (own, link)).Fit where
  held := by
    intro key found present
    by_cases same : link.originalUrl = found.originalUrl
    · exact ⟨own, by simp [same]⟩
    · have other : own ≠ key := by
        rintro rfl
        exact same (by simp at present; rw [present])
      have old : index.byKey[key]? = some found := by
        simpa [Std.ExtTreeMap.getElem?_insert, other] using present
      obtain ⟨holder, holds⟩ := fit.held key found old
      exact ⟨holder, by simp [Std.ExtTreeMap.getElem?_insert, same, holds]⟩
  leads := by
    intro url key holds
    by_cases same : link.originalUrl = url
    · obtain rfl : own = key := by simpa [same] using holds
      exact ⟨link, by simp, same⟩
    · have old : index.keyByUrl[url]? = some key := by
        simpa [Std.ExtTreeMap.getElem?_insert, same] using holds
      obtain ⟨found, present, leads⟩ := fit.leads url key old
      have other : own ≠ key := by
        rintro rfl
        rw [free] at present
        cases present
      exact ⟨found, by simp [Std.ExtTreeMap.getElem?_insert, other, present], leads⟩

/-- A link whose key is free can be put into a sound index. -/
theorem Sound.put {index : LinkIndex} (sound : index.Sound) {link : Link}
    (free : index.byKey[link.key]? = none) : (index.put (link.key, link)).Sound :=
  have fit := sound.fit.put free link
  ⟨sound.keyed.insert link, fit.held, fit.leads⟩

/-! ### Holders -/

section Holders

variable {index : LinkIndex} {key url : String}

/-- This link is in the way of a link with this key to this address: it holds the address and leads
there, or, if no link does, it stands under the key. -/
def InWay (index : LinkIndex) (key url : String) (holder : Link) : Prop :=
  (∃ place, index.keyByUrl[url]? = some place ∧ index.byKey[place]? = some holder ∧
    holder.originalUrl = url) ∨ ¬ LinkMap.Leads index.byKey url ∧ index.byKey[key]? = some holder

/-- Nothing is in the way exactly when the key is free and no link leads to the address. -/
theorem Fit.holder?_eq_none_iff (fit : index.Fit) :
    index.holder? key url = none ↔
      index.byKey[key]? = none ∧ ¬ LinkMap.Leads index.byKey url := by
  unfold holder?
  cases holds : index.keyByUrl[url]? with
  | none =>
      have noLink : ¬ LinkMap.Leads index.byKey url := by
        rintro ⟨key, link, found, rfl⟩
        obtain ⟨holder, taken⟩ := fit.held key link found
        rw [holds] at taken
        cases taken
      simp [noLink]
  | some holderKey =>
      obtain ⟨link, found, leads⟩ := fit.leads url holderKey holds
      have some_link : LinkMap.Leads index.byKey url := ⟨holderKey, link, found, leads⟩
      simp [found, some_link]

/-- What is in the way is found. -/
theorem Fit.inWay_of_holder? (fit : index.Fit) {holder : Link}
    (found : index.holder? key url = some holder) : index.InWay key url holder := by
  unfold holder? at found
  cases holds : index.keyByUrl[url]? with
  | none =>
      refine .inr ⟨?_, by simpa [holds] using found⟩
      rintro ⟨other, link, present, rfl⟩
      obtain ⟨taken, holdsUrl⟩ := fit.held other link present
      rw [holds] at holdsUrl
      cases holdsUrl
  | some holderKey =>
      obtain ⟨link, present, leads⟩ := fit.leads url holderKey holds
      simp only [holds, Option.bind_some, present] at found
      obtain rfl : link = holder := by simpa using found
      exact .inl ⟨holderKey, holds, present, leads⟩

/-- In a sound index a link in the way stands under its own key and has the address, or else the
key. -/
theorem Sound.of_inWay (sound : index.Sound) {holder : Link} (inWay : index.InWay key url holder) :
    index.byKey[holder.key]? = some holder ∧
      (holder.originalUrl = url ∨ holder.key = key ∧ ¬ LinkMap.Leads index.byKey url) := by
  rcases inWay with ⟨place, -, present, leads⟩ | ⟨unled, present⟩
  · exact ⟨sound.keyed place holder present ▸ present, .inl leads⟩
  · have own := sound.keyed key holder present
    exact ⟨own ▸ present, .inr ⟨own, unled⟩⟩

end Holders

/-! ### Single insertions -/

/-- The link that an entry asks to store: its short link filled in by the requested key, and its
identity by the fresh one. -/
def entryLink (fresh : String → String) (entry : String × Link) : Link :=
  (entry.2.fillShortUrl entry.1).ensureId (fresh entry.1)

@[simp] theorem entryLink_originalUrl (fresh : String → String) (entry : String × Link) :
    (entryLink fresh entry).originalUrl = entry.2.originalUrl := by
  unfold entryLink Link.ensureId Link.fillShortUrl
  split <;> split <;> rfl

theorem ensureId_key (link : Link) (fresh : String) : (link.ensureId fresh).key = link.key := by
  unfold Link.ensureId
  split <;> rfl

@[simp] theorem entryLink_shortUrl (fresh : String → String) (entry : String × Link) :
    (entryLink fresh entry).shortUrl = (entry.2.fillShortUrl entry.1).shortUrl := by
  unfold entryLink Link.ensureId
  split <;> rfl

theorem fillShortUrl_originalUrl (link : Link) (key : String) :
    (link.fillShortUrl key).originalUrl = link.originalUrl := by
  unfold Link.fillShortUrl
  split <;> rfl

/-- An insertion that is refused answers with the index it was given. -/
theorem eq_of_insert_existing {index after : LinkIndex} {fresh key : String} {link holder : Link}
    (refused : index.insert fresh key link = (.existing holder, after)) : after = index := by
  unfold insert at refused
  dsimp only at refused
  split at refused
  · exact (Prod.mk.inj refused).2.symm
  · cases (Prod.mk.inj refused).1

/-- An insertion that stores a link puts it under its own key. -/
theorem eq_of_insert_created {index after : LinkIndex} {fresh key : String} {link stored : Link}
    (inserted : index.insert fresh key link = (.created stored, after)) :
    after = index.put (stored.key, stored) := by
  unfold insert at inserted
  dsimp only at inserted
  split at inserted
  · cases (Prod.mk.inj inserted).1
  · obtain ⟨outcome, rfl⟩ := Prod.mk.inj inserted
    cases outcome
    rfl

/-- What an insertion into a sound index does. -/
inductive Insertion (index : LinkIndex) (own : Link) : Inserted Link × LinkIndex → Prop where
  /-- A stored link is in the way; nothing changes. -/
  | refused {holder : Link} (stored : index.byKey[holder.key]? = some holder)
      (inWay : holder.originalUrl = own.originalUrl ∨
        holder.key = own.key ∧ ¬ LinkMap.Leads index.byKey own.originalUrl) :
      Insertion index own (.existing holder, index)
  /-- Key and address are free; exactly this link comes in. -/
  | stored (free : index.byKey[own.key]? = none)
      (unled : ¬ LinkMap.Leads index.byKey own.originalUrl) :
      Insertion index own (.created own, index.put (own.key, own))

/-- How an index decides on a link. -/
inductive Decision (index : LinkIndex) (own : Link) : Inserted Link × LinkIndex → Prop where
  /-- The answer is the link in the way; nothing changes. -/
  | refused {holder : Link} (inWay : index.InWay own.key own.originalUrl holder) :
      Decision index own (.existing holder, index)
  /-- Key and address are free; exactly this link comes in. -/
  | stored (free : index.byKey[own.key]? = none)
      (unled : ¬ LinkMap.Leads index.byKey own.originalUrl) :
      Decision index own (.created own, index.put (own.key, own))

/-- An insertion is answered with the link that holds the address, or else the key; if there is
none, exactly the link of the entry comes in. -/
theorem insert_eq (index : LinkIndex) (fresh : String → String) (entry : String × Link) :
    index.insert (fresh entry.1) entry.1 entry.2 =
      match index.holder? (entryLink fresh entry).key (entryLink fresh entry).originalUrl with
      | some holder => (.existing holder, index)
      | none => (.created (entryLink fresh entry),
          index.put ((entryLink fresh entry).key, entryLink fresh entry)) := by
  have own : (entryLink fresh entry).key = (entry.2.fillShortUrl entry.1).key := ensureId_key _ _
  have url : (entryLink fresh entry).originalUrl = (entry.2.fillShortUrl entry.1).originalUrl := by
    rw [entryLink_originalUrl, fillShortUrl_originalUrl]
  unfold insert
  dsimp only
  rw [← own, ← url]
  cases index.holder? (entryLink fresh entry).key (entryLink fresh entry).originalUrl <;> rfl

theorem Fit.decision {index : LinkIndex} (fit : index.Fit) (fresh : String → String)
    (entry : String × Link) :
    Decision index (entryLink fresh entry) (index.insert (fresh entry.1) entry.1 entry.2) := by
  rw [insert_eq]
  cases found : index.holder? (entryLink fresh entry).key (entryLink fresh entry).originalUrl with
  | some holder => exact .refused (fit.inWay_of_holder? found)
  | none =>
      obtain ⟨free, unled⟩ := fit.holder?_eq_none_iff.mp found
      exact .stored free unled

theorem Sound.insertion {index : LinkIndex} (sound : index.Sound) (fresh : String → String)
    (entry : String × Link) :
    Insertion index (entryLink fresh entry)
      (index.insert (fresh entry.1) entry.1 entry.2) := by
  have step := sound.fit.decision fresh entry
  generalize index.insert (fresh entry.1) entry.1 entry.2 = answer at step
  cases step with
  | refused inWay =>
      obtain ⟨stored, inWay⟩ := sound.of_inWay inWay
      exact .refused stored inWay
  | stored free unled => exact .stored free unled

/-- Where addresses are unique, a link in the way is the one that an insertion answers with. -/
theorem Insertion.eq_existing {index : LinkIndex} {own holder : Link}
    {result : Inserted Link × LinkIndex} (step : Insertion index own result)
    (unique : LinkMap.UniqueUrls index.byKey) (present : index.byKey[holder.key]? = some holder)
    (inWay : holder.originalUrl = own.originalUrl ∨
      holder.key = own.key ∧ ¬ LinkMap.Leads index.byKey own.originalUrl) :
    result = (.existing holder, index) := by
  have leads {link : Link} (stored : index.byKey[link.key]? = some link)
      (url : link.originalUrl = own.originalUrl) : LinkMap.Leads index.byKey own.originalUrl :=
    ⟨link.key, link, stored, url⟩
  cases step with
  | stored free unled =>
      rcases inWay with url | ⟨same, -⟩
      · exact absurd (leads present url) unled
      · rw [same, free] at present
        nomatch present
  | @refused found stored foundInWay =>
      have same : found.key = holder.key := by
        rcases inWay with url | ⟨key, unled⟩ <;> rcases foundInWay with url' | ⟨key', unled'⟩
        · exact unique _ _ _ _ stored present (url'.trans url.symm)
        · exact absurd (leads present url) unled'
        · exact absurd (leads stored url') unled
        · exact key'.trans key.symm
      rw [same, present] at stored
      rw [Option.some.inj stored]

theorem Insertion.eq_created {index : LinkIndex} {own : Link}
    {result : Inserted Link × LinkIndex} (step : Insertion index own result)
    (free : index.byKey[own.key]? = none) (unled : ¬ LinkMap.Leads index.byKey own.originalUrl) :
    result = (.created own, index.put (own.key, own)) := by
  cases step with
  | stored => rfl
  | @refused found stored inWay =>
      rcases inWay with url | ⟨same, -⟩
      · exact absurd ⟨found.key, found, stored, url⟩ unled
      · rw [same, free] at stored
        nomatch stored

/-- After an insertion the record of its answer stands under its own key, and nothing else
changed. -/
theorem Sound.byKey_insert {index : LinkIndex} (sound : index.Sound) (fresh key : String)
    (link : Link) : (index.insert fresh key link).2.byKey
      = index.byKey.insert (index.insert fresh key link).1.record.key
          (index.insert fresh key link).1.record := by
  have step := sound.insertion (fun _ => fresh) (key, link)
  generalize index.insert fresh key link = answer at step
  cases step with
  | refused stored inWay => exact (LinkMap.insert_eq_self stored).symm
  | stored free unled => rfl

theorem Sound.insert {index : LinkIndex} (sound : index.Sound) (fresh key : String)
    (link : Link) : (index.insert fresh key link).2.Sound := by
  have step := sound.insertion (fun _ => fresh) (key, link)
  generalize index.insert fresh key link = answer at step
  cases step with
  | refused stored inWay => exact sound
  | stored free unled => exact sound.put free

/-- An insertion brings no second link to an address. -/
theorem Sound.uniqueUrls_insert {index : LinkIndex} (sound : index.Sound)
    (unique : LinkMap.UniqueUrls index.byKey) (fresh key : String) (link : Link) :
    LinkMap.UniqueUrls (index.insert fresh key link).2.byKey := by
  have step := sound.insertion (fun _ => fresh) (key, link)
  generalize index.insert fresh key link = answer at step
  cases step with
  | refused stored inWay => exact unique
  | stored free unled =>
      refine unique.insert_iff.mpr fun other twin found leads => ?_
      exact absurd ⟨other, twin, found, leads⟩ unled

/-! ### Batches -/

/-- What a batch does to a sound index. An entry is *stored* when the report does not name its
requested key. -/
structure Filed (fresh : String → String) (before : LinkIndex) (entries : List (String × Link))
    (result : BatchResult) : Prop where
  sound : result.index.Sound
  /-- Old links stay. -/
  kept : ∀ (key : String) (link : Link), before.byKey[key]? = some link →
    result.index.byKey[key]? = some link
  /-- Whatever comes in is the link of a stored entry, under a key that was free. -/
  added : ∀ (key : String) (link : Link), result.index.byKey[key]? = some link →
    before.byKey[key]? = some link ∨ before.byKey[key]? = none ∧
      ∃ entry ∈ entries, entryLink fresh entry = link ∧
        ∀ holder, (entry.1, holder) ∉ result.report.skipped
  /-- A stored entry finds its key and its address free, and is the only link to the address
  afterwards. -/
  stored : ∀ entry ∈ entries, (∀ holder, (entry.1, holder) ∉ result.report.skipped) →
    before.byKey[(entryLink fresh entry).key]? = none ∧
      ¬ LinkMap.Leads before.byKey entry.2.originalUrl ∧
      result.index.byKey[(entryLink fresh entry).key]? = some (entryLink fresh entry) ∧
      ∀ (key : String) (link : Link), result.index.byKey[key]? = some link →
        link.originalUrl = entry.2.originalUrl → link = entryLink fresh entry
  /-- A skipped entry is named with a stored link that has its address, or else its key. -/
  skipped : ∀ skip ∈ result.report.skipped,
    result.index.byKey[skip.2.key]? = some skip.2 ∧
      ∃ link, (skip.1, link) ∈ entries ∧
        (skip.2.originalUrl = link.originalUrl ∨
          skip.2.key = (entryLink fresh (skip.1, link)).key)
  /-- The report takes the entries in their order. -/
  order : (result.report.skipped.map (·.1)).Sublist (entries.map (·.1))

theorem filed_nil (fresh : String → String) {index : LinkIndex} (sound : index.Sound) :
    Filed fresh index [] (insertEntries fresh index []) where
  sound := sound
  kept _ _ found := found
  added _ _ found := .inl found
  stored entry mem := by cases mem
  skipped skip mem := by cases mem
  order := .slnil

/-- A first entry that is refused. -/
theorem Filed.refused {fresh : String → String} {before : LinkIndex} {entry : String × Link}
    {rest : List (String × Link)} {result : BatchResult} (tail : Filed fresh before rest result)
    (distinct : entry.1 ∉ rest.map (·.1)) {holder : Link}
    (present : before.byKey[holder.key]? = some holder)
    (inWay : holder.originalUrl = entry.2.originalUrl ∨
      holder.key = (entryLink fresh entry).key) :
    Filed fresh before (entry :: rest)
      ⟨{ result.report with skipped := (entry.1, holder) :: result.report.skipped },
        result.created, result.index⟩ where
  sound := tail.sound
  kept := tail.kept
  added := by
    intro key link found
    rcases tail.added key link found with old | ⟨free, other, mem, own, notSkipped⟩
    · exact .inl old
    · refine .inr ⟨free, other, List.mem_cons_of_mem _ mem, own, fun h skip => ?_⟩
      rcases List.mem_cons.mp skip with head | skip
      · have same : other.1 = entry.1 := (Prod.mk.inj head).1
        exact distinct (same ▸ List.mem_map_of_mem mem)
      · exact notSkipped h skip
  stored := by
    intro other mem notSkipped
    rcases List.mem_cons.mp mem with rfl | mem
    · exact absurd List.mem_cons_self (notSkipped holder)
    · exact tail.stored other mem fun h skip => notSkipped h (List.mem_cons_of_mem _ skip)
  skipped := by
    intro skip mem
    rcases List.mem_cons.mp mem with rfl | mem
    · exact ⟨tail.kept _ _ present, entry.2, List.mem_cons_self, inWay⟩
    · obtain ⟨found, link, linkMem, why⟩ := tail.skipped skip mem
      exact ⟨found, link, List.mem_cons_of_mem _ linkMem, why⟩
  order := tail.order.cons_cons entry.1

/-- The links after a free key was filled: the old ones and the new one. -/
theorem byKey_put_eq_some_iff {index : LinkIndex} {own : Link}
    (free : index.byKey[own.key]? = none) {key : String} {link : Link} :
    (index.put (own.key, own)).byKey[key]? = some link ↔
      index.byKey[key]? = some link ∨ key = own.key ∧ link = own := by
  by_cases same : own.key = key
  · subst same
    simp [free, eq_comm]
  · simp [Std.ExtTreeMap.getElem?_insert, same, Ne.symm same]

/-- A first entry that is stored. -/
theorem Filed.created {fresh : String → String} {before : LinkIndex} {entry : String × Link}
    {rest : List (String × Link)} {result : BatchResult}
    (tail : Filed fresh (before.put ((entryLink fresh entry).key, entryLink fresh entry)) rest
      result)
    (distinct : entry.1 ∉ rest.map (·.1))
    (free : before.byKey[(entryLink fresh entry).key]? = none)
    (unled : ¬ LinkMap.Leads before.byKey (entryLink fresh entry).originalUrl) :
    Filed fresh before (entry :: rest)
      ⟨{ result.report with inserted := result.report.inserted + 1 },
        entryLink fresh entry :: result.created, result.index⟩ := by
  have notSkipped : ∀ holder, (entry.1, holder) ∉ result.report.skipped := fun holder skip =>
    distinct (tail.order.subset (List.mem_map.mpr ⟨_, skip, rfl⟩))
  have free_of_put {key : String} (none_after :
      (before.put ((entryLink fresh entry).key, entryLink fresh entry)).byKey[key]? = none) :
      before.byKey[key]? = none := by
    refine Option.eq_none_iff_forall_ne_some.mpr fun link found => ?_
    rw [(byKey_put_eq_some_iff free).mpr (.inl found)] at none_after
    cases none_after
  exact
  { sound := tail.sound
    kept := fun key link found => tail.kept key link ((byKey_put_eq_some_iff free).mpr (.inl found))
    added := by
      intro key link found
      rcases tail.added key link found with present | ⟨none_after, other, mem, own, stays⟩
      · rcases (byKey_put_eq_some_iff free).mp present with old | ⟨rfl, rfl⟩
        · exact .inl old
        · exact .inr ⟨free, entry, List.mem_cons_self, rfl, notSkipped⟩
      · exact .inr ⟨free_of_put none_after, other, List.mem_cons_of_mem _ mem, own, stays⟩
    stored := by
      intro other mem stays
      rcases List.mem_cons.mp mem with rfl | mem
      · rw [entryLink_originalUrl] at unled
        refine ⟨free, unled, tail.kept _ _ ((byKey_put_eq_some_iff free).mpr (.inr ⟨rfl, rfl⟩)), ?_⟩
        intro key link found leads
        rcases tail.added key link found with present | ⟨-, later, laterMem, own, laterStays⟩
        · rcases (byKey_put_eq_some_iff free).mp present with old | ⟨-, same⟩
          · exact absurd ⟨key, link, old, leads⟩ unled
          · exact same
        · -- A later stored entry finds its address free, but this one leads there already.
          obtain ⟨-, laterUnled, -⟩ := tail.stored later laterMem laterStays
          refine absurd ⟨_, _, (byKey_put_eq_some_iff free).mpr (.inr ⟨rfl, rfl⟩), ?_⟩ laterUnled
          rw [entryLink_originalUrl, ← leads, ← own, entryLink_originalUrl]
      · obtain ⟨none_after, unledAfter, present, sole⟩ := tail.stored other mem stays
        refine ⟨free_of_put none_after, ?_, present, sole⟩
        rintro ⟨key, link, found, leads⟩
        exact unledAfter ⟨key, link, (byKey_put_eq_some_iff free).mpr (.inl found), leads⟩
    skipped := by
      intro skip mem
      obtain ⟨found, link, linkMem, why⟩ := tail.skipped skip mem
      exact ⟨found, link, List.mem_cons_of_mem _ linkMem, why⟩
    order := tail.order.cons entry.1 }

/-- **What a batch does to a sound index**, its requested keys being distinct. -/
theorem insertEntries_filed (fresh : String → String) {entries : List (String × Link)}
    (distinct : (entries.map (·.1)).Nodup) {index : LinkIndex} (sound : index.Sound) :
    Filed fresh index entries (insertEntries fresh index entries) := by
  induction entries generalizing index with
  | nil => exact filed_nil fresh sound
  | cons entry rest ih =>
      obtain ⟨key, link⟩ := entry
      rw [List.map_cons, List.nodup_cons] at distinct
      have step := sound.insertion fresh (key, link)
      generalize inserted : index.insert (fresh key) key link = answer at step
      cases step with
      | @refused holder present inWay =>
          simp only [insertEntries, inserted]
          exact (ih distinct.2 sound).refused distinct.1 present
            (inWay.imp (entryLink_originalUrl fresh (key, link) ▸ ·) (·.1))
      | stored free unled =>
          simp only [insertEntries, inserted]
          exact (ih distinct.2 (sound.put free)).created distinct.1 free unled

theorem Sound.insertBatch_filed {index : LinkIndex} (sound : index.Sound)
    (fresh : String → String) (batch : LinkMap) :
    Filed fresh index batch.toList (index.insertBatch fresh batch) :=
  insertEntries_filed fresh (LinkMap.keys_nodup batch) sound

/-- A batch brings no second link to an address. -/
theorem Filed.uniqueUrls {fresh : String → String} {before : LinkIndex}
    {entries : List (String × Link)} {result : BatchResult}
    (filed : Filed fresh before entries result) (unique : LinkMap.UniqueUrls before.byKey) :
    LinkMap.UniqueUrls result.index.byKey := by
  -- The link of a stored entry is the only one to its address, whichever of the two it is.
  have sole {key other : String} {link twin : Link}
      (found : result.index.byKey[key]? = some link)
      (foundTwin : result.index.byKey[other]? = some twin)
      (same : link.originalUrl = twin.originalUrl)
      (entry : String × Link) (mem : entry ∈ entries) (own : entryLink fresh entry = link)
      (stays : ∀ holder, (entry.1, holder) ∉ result.report.skipped) : key = other := by
    obtain ⟨-, -, -, only⟩ := filed.stored entry mem stays
    have leads : twin.originalUrl = entry.2.originalUrl := by
      rw [← same, ← own, entryLink_originalUrl]
    have twins : twin = link := (only other twin foundTwin leads).trans own
    rw [← filed.sound.keyed key link found, ← filed.sound.keyed other twin foundTwin, twins]
  intro key other link twin found foundTwin same
  rcases filed.added key link found with old | ⟨-, entry, mem, own, stays⟩
  · rcases filed.added other twin foundTwin with oldTwin | ⟨-, entry, mem, own, stays⟩
    · exact unique key other link twin old oldTwin same
    · exact (sole foundTwin found same.symm entry mem own stays).symm
  · exact sole found foundTwin same entry mem own stays

/-! ### Tombstones -/

@[simp] theorem byKey_tombstone (index : LinkIndex) (requests : List DeletionRequest) :
    (index.tombstone requests).1.byKey = (LinkMap.tombstone index.byKey requests).1 := rfl

@[simp] theorem keyByUrl_tombstone (index : LinkIndex) (requests : List DeletionRequest) :
    (index.tombstone requests).1.keyByUrl = index.keyByUrl := rfl

theorem Fit.tombstone {index : LinkIndex} (fit : index.Fit) (requests : List DeletionRequest) :
    (index.tombstone requests).1.Fit where
  held := by
    intro key link present
    rw [byKey_tombstone, LinkMap.getElem?_tombstone] at present
    obtain ⟨before, found, rfl⟩ := Option.map_eq_some_iff.mp present
    simpa using fit.held key before found
  leads := by
    intro url key holds
    obtain ⟨link, found, leads⟩ := fit.leads url key holds
    rw [byKey_tombstone, LinkMap.getElem?_tombstone, found]
    exact ⟨_, rfl, by simpa using leads⟩

theorem Sound.tombstone {index : LinkIndex} (sound : index.Sound)
    (requests : List DeletionRequest) : (index.tombstone requests).1.Sound :=
  have fit := sound.fit.tombstone requests
  ⟨sound.keyed.tombstone requests, fit.held, fit.leads⟩

/-- Without a mark that is set, the index stays as it is. -/
theorem tombstone_eq_self {index : LinkIndex} {requests : List DeletionRequest}
    (unmarked : (index.tombstone requests).2 = false) : (index.tombstone requests).1 = index := by
  have links : (LinkMap.tombstone index.byKey requests).1 = index.byKey :=
    LinkMap.tombstonePairs_eq_self unmarked
  simp only [tombstone, links]

/-! ### The index of a table -/

theorem byKey_foldl_put (entries : List (String × Link)) (index : LinkIndex) :
    (entries.foldl put index).byKey = LinkMap.insertAll index.byKey entries := by
  induction entries generalizing index with
  | nil => rfl
  | cons entry rest ih => exact ih (index.put entry)

/-- The index of a table holds the table, in whatever order it takes the entries. -/
theorem byKey_ofList {links : LinkMap} {entries : List (String × Link)}
    (order : entries.Perm links.toList) : (ofList entries).byKey = links :=
  (byKey_foldl_put entries {}).trans (LinkMap.insertAll_toList order)

theorem Fit.foldl_put {entries : List (String × Link)} (distinct : (entries.map (·.1)).Nodup)
    {index : LinkIndex} (fit : index.Fit) (free : ∀ entry ∈ entries, index.byKey[entry.1]? = none) :
    (entries.foldl LinkIndex.put index).Fit := by
  induction entries generalizing index with
  | nil => exact fit
  | cons entry rest ih =>
      rw [List.map_cons, List.nodup_cons] at distinct
      refine ih distinct.2 (fit.put (free entry List.mem_cons_self) entry.2) fun e mem => ?_
      have other : entry.1 ≠ e.1 := fun same => distinct.1 (same ▸ List.mem_map_of_mem mem)
      simpa [Std.ExtTreeMap.getElem?_insert, other] using free e (List.mem_cons_of_mem _ mem)

/-- The index of any table is fit, whatever stands in it. -/
theorem fit_ofList {links : LinkMap} {entries : List (String × Link)}
    (order : entries.Perm links.toList) : (ofList entries).Fit :=
  fit_empty.foldl_put ((order.map (·.1)).nodup_iff.mpr (LinkMap.keys_nodup links)) (by simp)

/-- The index of a keyed table is sound, also when several of its links lead to one address. -/
theorem sound_ofList {links : LinkMap} (keyed : LinkMap.Keyed links)
    {entries : List (String × Link)} (order : entries.Perm links.toList) :
    (ofList entries).Sound where
  keyed := by rwa [byKey_ofList order]
  held := (fit_ofList order).held
  leads := (fit_ofList order).leads

/-! ### Indexes of one table -/

/-- Where addresses are unique, the holder of an address is the key of the link to it. -/
theorem Sound.keyByUrl_eq_some_iff {index : LinkIndex} (sound : index.Sound)
    (unique : LinkMap.UniqueUrls index.byKey) {url key : String} :
    index.keyByUrl[url]? = some key ↔
      ∃ link, index.byKey[key]? = some link ∧ link.originalUrl = url := by
  constructor
  · exact sound.leads url key
  · rintro ⟨link, found, rfl⟩
    obtain ⟨holder, holds⟩ := sound.held key link found
    obtain ⟨twin, foundTwin, same⟩ := sound.leads _ holder holds
    rw [holds, unique key holder link twin found foundTwin same.symm]

/-- Sound indexes of one table are equal where addresses are unique in it. -/
theorem Sound.eq_of_byKey {index other : LinkIndex} (sound : index.Sound)
    (soundOther : other.Sound) (unique : LinkMap.UniqueUrls index.byKey)
    (same : other.byKey = index.byKey) : other = index := by
  have holders : other.keyByUrl = index.keyByUrl := by
    refine Std.ExtTreeMap.ext_getElem? fun {url} => Option.ext fun key => ?_
    rw [soundOther.keyByUrl_eq_some_iff (same ▸ unique), sound.keyByUrl_eq_some_iff unique, same]
  cases index
  cases other
  congr

/-- Taking the table of an index anew gives the index, where addresses are unique. -/
theorem Sound.ofMap_byKey {index : LinkIndex} (sound : index.Sound)
    (unique : LinkMap.UniqueUrls index.byKey) : ofMap index.byKey = index :=
  sound.eq_of_byKey (sound_ofList sound.keyed (.refl _)) unique (byKey_ofList (.refl _))

/-! ### Batches in parts -/

/-- What a batch puts into an index are the links it created, in their order. -/
theorem index_insertEntries (fresh : String → String) (index : LinkIndex)
    (entries : List (String × Link)) : (insertEntries fresh index entries).index
      = (LinkMap.entriesOf (insertEntries fresh index entries).created).foldl put index := by
  induction entries generalizing index with
  | nil => rfl
  | cons entry rest ih =>
      obtain ⟨key, link⟩ := entry
      unfold insertEntries
      cases answer : index.insert (fresh key) key link with
      | mk outcome after =>
          cases outcome with
          | created stored =>
              obtain rfl := eq_of_insert_created answer
              exact ih _
          | existing holder =>
              obtain rfl := eq_of_insert_existing answer
              exact ih _

theorem byKey_insertEntries (fresh : String → String) (index : LinkIndex)
    (entries : List (String × Link)) : (insertEntries fresh index entries).index.byKey
      = LinkMap.insertAll index.byKey
          ((insertEntries fresh index entries).created.map fun link => (link.key, link)) := by
  rw [index_insertEntries, byKey_foldl_put]
  rfl

/-- A batch can be inserted in two parts. -/
theorem insertEntries_append (fresh : String → String) (index : LinkIndex)
    (first later : List (String × Link)) :
    let before := insertEntries fresh index first
    let after := insertEntries fresh before.index later
    insertEntries fresh index (first ++ later)
      = ⟨⟨before.report.inserted + after.report.inserted,
          before.report.skipped ++ after.report.skipped⟩,
        before.created ++ after.created, after.index⟩ := by
  dsimp only
  induction first generalizing index with
  | nil => simp [insertEntries]
  | cons entry rest ih =>
      obtain ⟨key, link⟩ := entry
      rw [List.cons_append, insertEntries, insertEntries.eq_2 fresh index key link rest]
      cases index.insert (fresh key) key link with
      | mk outcome after =>
          cases outcome with
          | created stored => simp [ih, Nat.add_right_comm]
          | existing holder => simp [ih]

theorem Fit.insertEntries {index : LinkIndex} (fit : index.Fit) (fresh : String → String)
    (entries : List (String × Link)) : (index.insertEntries fresh entries).index.Fit := by
  induction entries generalizing index with
  | nil => exact fit
  | cons entry rest ih =>
      obtain ⟨key, link⟩ := entry
      have step := fit.decision fresh (key, link)
      generalize inserted : index.insert (fresh key) key link = answer at step
      cases step with
      | refused => simpa only [LinkIndex.insertEntries, inserted] using ih fit
      | stored free unled =>
          simpa only [LinkIndex.insertEntries, inserted] using ih (fit.put free _)

/-! ### The links of a batch -/

/-- The links of a batch that a report does not name as skipped. -/
def reported (fresh : String → String) (entries : List (String × Link)) (report : BatchReport) :
    List Link :=
  (entries.filter fun entry => entry.1 ∉ report.skipped.map (·.1)).map (entryLink fresh)

/-- What a batch stores, in order, and what finds its key free. -/
structure Creates (fresh : String → String) (before : LinkIndex) (entries : List (String × Link))
    (result : BatchResult) : Prop where
  stored : result.created = reported fresh entries result.report
  free : ∀ own ∈ result.created, before.byKey[own.key]? = none
  distinct : (result.created.map Link.key).Nodup
  skipped : ∀ skip ∈ result.report.skipped, skip.1 ∈ entries.map (·.1)

theorem Creates.refused {fresh : String → String} {before : LinkIndex} {entry : String × Link}
    {rest : List (String × Link)} {result : BatchResult}
    (tail : Creates fresh before rest result) (distinct : entry.1 ∉ rest.map (·.1))
    (holder : Link) : Creates fresh before (entry :: rest)
      ⟨{ result.report with skipped := (entry.1, holder) :: result.report.skipped },
        result.created, result.index⟩ where
  stored := by
    have same : rest.filter (fun other => other.1 ∉ result.report.skipped.map (·.1))
        = rest.filter fun other =>
            other.1 ∉ ((entry.1, holder) :: result.report.skipped).map (·.1) := by
      refine List.filter_congr fun other mem => ?_
      have ne : other.1 ≠ entry.1 := fun same => distinct (same ▸ List.mem_map_of_mem mem)
      simp [ne]
    rw [reported, List.filter_cons_of_neg (by simp), ← same]
    exact tail.stored
  free := tail.free
  distinct := tail.distinct
  skipped := by
    intro skip mem
    rcases List.mem_cons.mp mem with rfl | mem
    · exact List.mem_cons_self
    · exact List.mem_cons_of_mem _ (tail.skipped skip mem)

theorem Creates.created {fresh : String → String} {before : LinkIndex} {entry : String × Link}
    {rest : List (String × Link)} {result : BatchResult}
    (tail : Creates fresh (before.put ((entryLink fresh entry).key, entryLink fresh entry)) rest
      result)
    (distinct : entry.1 ∉ rest.map (·.1))
    (free : before.byKey[(entryLink fresh entry).key]? = none) :
    Creates fresh before (entry :: rest)
      ⟨{ result.report with inserted := result.report.inserted + 1 },
        entryLink fresh entry :: result.created, result.index⟩ where
  stored := by
    have notSkipped : entry.1 ∉ result.report.skipped.map (·.1) := by
      intro named
      obtain ⟨skip, mem, same⟩ := List.mem_map.mp named
      exact distinct (same ▸ tail.skipped skip mem)
    rw [reported, List.filter_cons_of_pos (by simpa using notSkipped), List.map_cons]
    exact congrArg _ tail.stored
  free := by
    intro own mem
    rcases List.mem_cons.mp mem with rfl | mem
    · exact free
    · have later := tail.free own mem
      rw [byKey_put, Std.ExtTreeMap.getElem?_insert] at later
      split at later
      · cases later
      · exact later
  distinct := by
    rw [List.map_cons, List.nodup_cons]
    refine ⟨fun again => ?_, tail.distinct⟩
    obtain ⟨own, mem, same⟩ := List.mem_map.mp again
    have later := tail.free own mem
    rw [same] at later
    simp at later
  skipped skip mem := List.mem_cons_of_mem _ (tail.skipped skip mem)

theorem Fit.creates {index : LinkIndex} (fit : index.Fit) (fresh : String → String)
    {entries : List (String × Link)} (distinct : (entries.map (·.1)).Nodup) :
    Creates fresh index entries (index.insertEntries fresh entries) := by
  induction entries generalizing index with
  | nil =>
      exact ⟨rfl, by simp [LinkIndex.insertEntries], by simp [LinkIndex.insertEntries],
        by simp [LinkIndex.insertEntries]⟩
  | cons entry rest ih =>
      obtain ⟨key, link⟩ := entry
      rw [List.map_cons, List.nodup_cons] at distinct
      have step := fit.decision fresh (key, link)
      generalize inserted : index.insert (fresh key) key link = answer at step
      cases step with
      | @refused holder inWay =>
          simp only [LinkIndex.insertEntries, inserted]
          exact (ih fit distinct.2).refused distinct.1 holder
      | stored free unled =>
          simp only [LinkIndex.insertEntries, inserted]
          exact (ih (fit.put free _) distinct.2).created distinct.1 free

theorem insertEntries_creates (fresh : String → String) {entries : List (String × Link)}
    (distinct : (entries.map (·.1)).Nodup) {index : LinkIndex} (sound : index.Sound) :
    Creates fresh index entries (insertEntries fresh index entries) :=
  sound.fit.creates fresh distinct

/-- A report counts the links that were stored. -/
theorem insertEntries_inserted (fresh : String → String) (index : LinkIndex)
    (entries : List (String × Link)) :
    (insertEntries fresh index entries).report.inserted
      = (insertEntries fresh index entries).created.length := by
  induction entries generalizing index with
  | nil => rfl
  | cons entry rest ih =>
      obtain ⟨key, link⟩ := entry
      rw [insertEntries]
      split
      · exact congrArg (· + 1) (ih _)
      · exact ih _

/-- A batch stores or names every entry. -/
theorem insertEntries_length (fresh : String → String) (index : LinkIndex)
    (entries : List (String × Link)) :
    (insertEntries fresh index entries).report.inserted
      + (insertEntries fresh index entries).report.skipped.length = entries.length := by
  induction entries generalizing index with
  | nil => rfl
  | cons entry rest ih =>
      obtain ⟨key, link⟩ := entry
      unfold insertEntries
      cases index.insert (fresh key) key link with
      | mk outcome after =>
          have tail := ih after
          cases outcome with
          | created stored =>
              simp only [List.length_cons]
              omega
          | existing holder =>
              simp only [List.length_cons]
              omega

/-- A report names entries in their order. -/
theorem insertEntries_order (fresh : String → String) (index : LinkIndex)
    (entries : List (String × Link)) :
    ((insertEntries fresh index entries).report.skipped.map (·.1)).Sublist (entries.map (·.1)) := by
  induction entries generalizing index with
  | nil => exact .slnil
  | cons entry rest ih =>
      obtain ⟨key, link⟩ := entry
      unfold insertEntries
      split
      · exact (ih _).cons key
      · exact (ih _).cons_cons key

/-- A batch stores the links of the entries that the report does not name. -/
theorem Creates.mem_iff {fresh : String → String} {before : LinkIndex}
    {entries : List (String × Link)} {result : BatchResult}
    (creates : Creates fresh before entries result) {link : Link} : link ∈ result.created ↔
      ∃ entry ∈ entries, (∀ holder, (entry.1, holder) ∉ result.report.skipped) ∧
        entryLink fresh entry = link := by
  rw [creates.stored, reported, List.mem_map]
  refine exists_congr fun entry => ?_
  simp [and_assoc]

/-- No two stored links lead to one address. -/
theorem insertEntries_urls (fresh : String → String) {entries : List (String × Link)}
    (distinct : (entries.map (·.1)).Nodup) {index : LinkIndex} (sound : index.Sound) :
    ((insertEntries fresh index entries).created.map (·.originalUrl)).Nodup := by
  have filed := insertEntries_filed fresh distinct sound
  have creates := insertEntries_creates fresh distinct sound
  refine (List.nodup_map_iff_inj_on (List.Nodup.of_map _ creates.distinct)).mpr ?_
  intro link mem twin twinMem same
  obtain ⟨entry, among, stays, rfl⟩ := creates.mem_iff.mp mem
  obtain ⟨other, otherAmong, otherStays, rfl⟩ := creates.mem_iff.mp twinMem
  obtain ⟨-, -, -, sole⟩ := filed.stored entry among stays
  obtain ⟨-, -, present, -⟩ := filed.stored other otherAmong otherStays
  refine (sole _ _ present ?_).symm
  rw [← same, entryLink_originalUrl]

end LinkIndex

end ShortLinks
