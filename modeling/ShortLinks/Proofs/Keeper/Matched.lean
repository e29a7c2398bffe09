import ShortLinks.Proofs.Keeper.LinkIndex
import ShortLinks.Proofs.Run

/-!
The index of stored links under every sequence of changes.

* `Matched` — the two maps of an index are views of one table: a link stands under its own key, and
  an address is held by the key of the link to it.
* `Answered`, `Matched.answered` — what an insertion into such an index answers and does.
* `Matched.remove` — taking back a link that stands undoes both of its entries. The link is
  recognised by key and identity alone, so it must not have been replaced meanwhile.
* `Draft`, `Draft.Orderly` — an index together with the links that came in and may still be taken
  back.
* `Draft.holds_next_of_unheld`, `Draft.holds_next` — what new links, marks and the taking back of
  links preserve, every change preserves.
* `matched_throughout` — an index that starts empty or from a table stays matched through
  insertions, batches, deletions and the taking back of links that came in.
-/

namespace ShortLinks

namespace LinkIndex

/-- The two maps of an index are views of one table. -/
structure Matched (index : LinkIndex) : Prop where
  /-- Links stand under their own keys. -/
  keyed : ∀ (key : String) (link : Link), index.byKey[key]? = some link → link.key = key
  /-- An address is held by a key exactly when the link under the key leads to it. -/
  holds_iff : ∀ url key : String, index.keyByUrl[url]? = some key ↔
    ∃ link, index.byKey[key]? = some link ∧ link.originalUrl = url

theorem matched_iff {index : LinkIndex} :
    index.Matched ↔ index.Sound ∧ LinkMap.UniqueUrls index.byKey := by
  constructor
  · intro matched
    refine ⟨⟨matched.keyed, fun key link found => ?_, fun url key => ?_⟩, ?_⟩
    · exact ⟨key, (matched.holds_iff _ key).mpr ⟨link, found, rfl⟩⟩
    · exact (matched.holds_iff url key).mp
    · -- Two keys with links to one address would both hold it.
      intro key other link twin found foundTwin same
      have holds := (matched.holds_iff _ key).mpr ⟨link, found, rfl⟩
      have holdsTwin := (matched.holds_iff _ other).mpr ⟨twin, foundTwin, same.symm⟩
      exact Option.some.inj (holds.symm.trans holdsTwin)
  · rintro ⟨sound, unique⟩
    exact ⟨sound.keyed, fun url key => sound.keyByUrl_eq_some_iff unique⟩

namespace Matched

variable {index : LinkIndex}

theorem sound (matched : index.Matched) : index.Sound := (matched_iff.mp matched).1

theorem unique (matched : index.Matched) : LinkMap.UniqueUrls index.byKey :=
  (matched_iff.mp matched).2

end Matched

/-! ### Insertions -/

/-- What an insertion of a link answers, and what it does to the index. The key given with the link
only fills in an empty short link. -/
structure Answered (index : LinkIndex) (fresh key : String) (link : Link) : Prop where
  /-- It is refused exactly when the address or the key is taken. -/
  refused_iff : (∃ holder, (index.insert fresh key link).1 = .existing holder) ↔
    LinkMap.Leads index.byKey link.originalUrl ∨
      ∃ holder, index.byKey[(link.fillShortUrl key).key]? = some holder
  /-- It is refused with the link to the address if there is one, and otherwise with the link under
  the key. -/
  holder_iff : ∀ holder, (index.insert fresh key link).1 = .existing holder ↔
    index.byKey[holder.key]? = some holder ∧
      (holder.originalUrl = link.originalUrl ∨ holder.key = (link.fillShortUrl key).key ∧
        ¬ LinkMap.Leads index.byKey link.originalUrl)
  /-- An insertion that is refused changes nothing. -/
  unchanged : ∀ holder, (index.insert fresh key link).1 = .existing holder →
    (index.insert fresh key link).2 = index
  /-- Otherwise it stores exactly the link that it answers with: the one that was asked for, with
  its short link and its identity filled in. -/
  stored : ∀ own, (index.insert fresh key link).1 = .created own →
    own = (link.fillShortUrl key).ensureId fresh ∧ (fresh ≠ "" → own.id ≠ "") ∧
      (index.insert fresh key link).2.byKey = index.byKey.insert own.key own ∧
      (index.insert fresh key link).2.keyByUrl = index.keyByUrl.insert own.originalUrl own.key

theorem ensureId_id_ne (link : Link) {fresh : String} (nonempty : fresh ≠ "") :
    (link.ensureId fresh).id ≠ "" := by
  unfold Link.ensureId
  split
  · exact nonempty
  · next borne => simpa using borne

/-- **What an insertion does**, where the maps are matched. -/
theorem Matched.answered {index : LinkIndex} (matched : index.Matched) (fresh key : String)
    (link : Link) : index.Answered fresh key link := by
  have step := matched.sound.insertion (fun _ => fresh) (key, link)
  have ownKey : (entryLink (fun _ => fresh) (key, link)).key = (link.fillShortUrl key).key :=
    ensureId_key _ _
  have ownUrl := entryLink_originalUrl (fun _ => fresh) (key, link)
  have eq_existing (holder : Link) (present : index.byKey[holder.key]? = some holder)
      (inWay : holder.originalUrl = link.originalUrl ∨ holder.key = (link.fillShortUrl key).key ∧
        ¬ LinkMap.Leads index.byKey link.originalUrl) :
      index.insert fresh key link = (.existing holder, index) :=
    step.eq_existing matched.unique present (by rwa [ownKey, ownUrl])
  dsimp only at step ownUrl
  generalize attempt : index.insert fresh key link = answer at step eq_existing
  cases step with
  | @refused holder present inWay =>
      rw [ownKey, ownUrl] at inWay
      have existing : (index.insert fresh key link).1 = .existing holder := by rw [attempt]
      exact
      { refused_iff := by
          refine iff_of_true ⟨holder, existing⟩ ?_
          rcases inWay with url | ⟨same, -⟩
          · exact .inl ⟨holder.key, holder, present, url⟩
          · exact .inr ⟨holder, same ▸ present⟩
        holder_iff := by
          intro other
          rw [existing]
          constructor
          · rintro same
            cases same
            exact ⟨present, inWay⟩
          · rintro ⟨alsoPresent, alsoInWay⟩
            exact congrArg Prod.fst (eq_existing other alsoPresent alsoInWay)
        unchanged := fun _ _ => by rw [attempt]
        stored := fun own same => nomatch existing.symm.trans same }
  | stored free unled =>
      rw [ownKey] at free
      rw [ownUrl] at unled
      have created : (index.insert fresh key link).1
          = .created (entryLink (fun _ => fresh) (key, link)) := by rw [attempt]
      exact
      { refused_iff := by
          refine iff_of_false (fun ⟨holder, same⟩ => nomatch created.symm.trans same) ?_
          rintro (led | ⟨holder, taken⟩)
          · exact unled led
          · nomatch free.symm.trans taken
        holder_iff := by
          refine fun other => iff_of_false (fun same => nomatch created.symm.trans same) ?_
          rintro ⟨present, inWay⟩
          nomatch eq_existing other present inWay
        unchanged := fun _ same => nomatch created.symm.trans same
        stored := by
          intro own same
          rw [attempt] at same ⊢
          cases same
          exact ⟨rfl, ensureId_id_ne _, rfl, rfl⟩ }

/-! ### Taking back -/

/-- A link stands in an index, perhaps marked since it came in. -/
def Stands (index : LinkIndex) (link : Link) : Prop :=
  ∃ stored, index.byKey[link.key]? = some stored ∧ stored.id = link.id ∧
    stored.originalUrl = link.originalUrl

theorem remove_of_stands {index : LinkIndex} {link : Link} (stands : index.Stands link) :
    index.remove link = ⟨index.byKey.erase link.key, index.keyByUrl.erase link.originalUrl⟩ := by
  obtain ⟨stored, found, sameId, -⟩ := stands
  unfold remove
  rw [found, if_pos (by simpa using sameId)]

/-- Taking back a link that stands undoes both of its entries. -/
theorem Matched.remove {index : LinkIndex} (matched : index.Matched) {link : Link}
    (stands : index.Stands link) : (index.remove link).Matched := by
  rw [remove_of_stands stands]
  obtain ⟨stored, found, -, url⟩ := stands
  have url_iff {key : String} {other : Link} (present : index.byKey[key]? = some other) :
      other.originalUrl = link.originalUrl ↔ key = link.key := by
    constructor
    · intro same
      exact matched.unique key link.key other stored present found (same.trans url.symm)
    · rintro rfl
      obtain rfl := Option.some.inj (present.symm.trans found)
      exact url
  refine ⟨LinkMap.Keyed.erase matched.keyed link.key, fun target key => ?_⟩
  simp only [Std.ExtTreeMap.getElem?_erase, Std.LawfulEqCmp.compare_eq_iff_eq,
    Option.ite_none_left_eq_some, matched.holds_iff]
  constructor
  · rintro ⟨otherUrl, other, present, rfl⟩
    exact ⟨other, ⟨fun same => otherUrl ((url_iff present).mpr same.symm).symm, present⟩, rfl⟩
  · rintro ⟨other, ⟨otherKey, present⟩, rfl⟩
    exact ⟨fun same => otherKey ((url_iff present).mp same.symm).symm, other, present, rfl⟩

/-! ### Sequences of changes -/

/-- Where an index comes from: it is empty, or it is made of a table in which every link stands
under its own key and no two lead to one address, in whatever order it takes the entries. -/
inductive Origin : LinkIndex → Prop where
  | empty : Origin {}
  | table {links : LinkMap} {entries : List (String × Link)} (keyed : LinkMap.Keyed links)
      (unique : LinkMap.UniqueUrls links) (order : entries.Perm links.toList) :
      Origin (ofList entries)

theorem Origin.matched {index : LinkIndex} (origin : Origin index) : index.Matched := by
  cases origin with
  | empty => exact matched_iff.mpr ⟨sound_empty, LinkMap.uniqueUrls_empty⟩
  | table keyed unique order =>
      exact matched_iff.mpr ⟨sound_ofList keyed order, by rwa [byKey_ofList order]⟩

/-- A change of an index. -/
inductive Change where
  | insert (fresh key : String) (link : Link)
  | batch (fresh : String → String) (batch : LinkMap)
  | tombstone (requests : List DeletionRequest)
  /-- Takes back a link that came in. -/
  | remove (link : Link)

/-- An index, and the links that came in as they were stored and were not taken back. -/
structure Draft where
  index : LinkIndex
  recent : List Link := []

namespace Draft

/-- The draft after a change. -/
def next (d : Draft) : Change → Draft
  | .insert fresh key link =>
      match d.index.insert fresh key link with
      | (.created own, after) => ⟨after, d.recent ++ [own]⟩
      | (.existing _, after) => ⟨after, d.recent⟩
  | .batch fresh batch =>
      let r := d.index.insertBatch fresh batch
      ⟨r.index, d.recent ++ r.created⟩
  | .tombstone requests => ⟨(d.index.tombstone requests).1, d.recent⟩
  | .remove link => ⟨d.index.remove link, d.recent.erase link⟩

/-- Only a link that came in and was not taken back since is taken back. -/
def Allows (d : Draft) : Change → Prop
  | .remove link => link ∈ d.recent
  | _ => True

/-- The links that may be taken back stand in the index, each under a key of its own. -/
structure Tracks (d : Draft) : Prop where
  stands : ∀ link ∈ d.recent, d.index.Stands link
  keys : (d.recent.map Link.key).Nodup

/-- The maps of the index are matched, and the links that may be taken back stand in it, each under
a key of its own. -/
structure Orderly (d : Draft) : Prop where
  matched : d.index.Matched
  stands : ∀ link ∈ d.recent, d.index.Stands link
  keys : (d.recent.map Link.key).Nodup

variable {d : Draft} {own link : Link}

/-- The draft with one more link. -/
def put (d : Draft) (own : Link) : Draft := ⟨d.index.put (own.key, own), d.recent ++ [own]⟩

/-- The draft with a link taken back. -/
def remove (d : Draft) (link : Link) : Draft := ⟨d.index.remove link, d.recent.erase link⟩

/-- The draft with the marks that requests ask for. -/
def tombstone (d : Draft) (requests : List DeletionRequest) : Draft :=
  ⟨(d.index.tombstone requests).1, d.recent⟩

/-! ### What every change preserves -/

theorem Tracks.put (tracks : d.Tracks) (free : d.index.byKey[own.key]? = none) :
    (d.put own).Tracks where
  stands := by
    intro link mem
    rcases List.mem_append.mp mem with old | new
    · obtain ⟨stored, found, same⟩ := tracks.stands link old
      exact ⟨stored, (byKey_put_eq_some_iff free).mpr (.inl found), same⟩
    · obtain rfl := List.mem_singleton.mp new
      exact ⟨link, (byKey_put_eq_some_iff free).mpr (.inr ⟨rfl, rfl⟩), rfl, rfl⟩
  keys := by
    rw [Draft.put, List.map_append, List.map_singleton, ← List.concat_eq_append, List.nodup_concat]
    refine ⟨fun among => ?_, tracks.keys⟩
    obtain ⟨link, mem, same⟩ := List.mem_map.mp among
    obtain ⟨stored, found, -⟩ := tracks.stands link mem
    rw [same, free] at found
    nomatch found

theorem Tracks.tombstone (tracks : d.Tracks) (requests : List DeletionRequest) :
    (d.tombstone requests).Tracks where
  stands := by
    intro link mem
    obtain ⟨stored, found, sameId, url⟩ := tracks.stands link mem
    refine ⟨LinkMap.afterPairs (requests.flatMap DeletionRequest.pairs) link.key stored, ?_, ?_, ?_⟩
    · rw [Draft.tombstone, byKey_tombstone, LinkMap.getElem?_tombstone, found]
      rfl
    · rw [← sameId]
      unfold LinkMap.afterPairs
      split <;> rfl
    · rw [LinkMap.afterPairs_originalUrl, url]
  keys := tracks.keys

/-- The links that are left have other keys, so their entries stay. -/
theorem Tracks.remove (tracks : d.Tracks) (mem : link ∈ d.recent) : (d.remove link).Tracks where
  stands := by
    intro other otherMem
    obtain ⟨distinct, otherMem⟩ := tracks.keys.of_map.mem_erase_iff.mp otherMem
    have apart : link.key ≠ other.key := fun same =>
      distinct (List.inj_on_of_nodup_map tracks.keys otherMem mem same.symm)
    obtain ⟨stored, found, same⟩ := tracks.stands other otherMem
    refine ⟨stored, ?_, same⟩
    rw [Draft.remove, remove_of_stands (tracks.stands link mem)]
    simpa [Std.ExtTreeMap.getElem?_erase, apart] using found
  keys := tracks.keys.sublist ((List.erase_sublist).map Link.key)

section Changes

variable {holds : Draft → Prop}

section Unheld

variable (put_holds : ∀ d own, holds d → d.index.holder? own.key own.originalUrl = none →
  holds (d.put own))
include put_holds

/-- What holds of a draft holds after a batch if new links preserve it. -/
theorem holds_insertEntries_of_unheld (fresh : String → String) (entries : List (String × Link))
    {index : LinkIndex} {recent : List Link} (start : holds ⟨index, recent⟩) :
    holds ⟨(index.insertEntries fresh entries).index,
      recent ++ (index.insertEntries fresh entries).created⟩ := by
  induction entries generalizing index recent with
  | nil => simpa [insertEntries] using start
  | cons entry rest ih =>
      obtain ⟨key, link⟩ := entry
      have step := insert_eq index fresh (key, link)
      dsimp only at step
      rw [insertEntries, step]
      cases found : index.holder? (entryLink fresh (key, link)).key
          (entryLink fresh (key, link)).originalUrl with
      | some holder => exact ih start
      | none =>
          rw [List.append_cons]
          exact ih (put_holds _ _ start found)

/-- What new links, marks and the taking back of links preserve, every change preserves. -/
theorem holds_next_of_unheld
    (marked_holds : ∀ d requests, holds d → holds (d.tombstone requests))
    (removed_holds : ∀ d link, holds d → link ∈ d.recent → holds (d.remove link))
    (start : holds d) {change : Change} (allowed : d.Allows change) : holds (d.next change) := by
  cases change with
  | insert fresh key link =>
      have step := insert_eq d.index (fun _ => fresh) (key, link)
      dsimp only at step
      rw [next, step]
      cases found : d.index.holder? (entryLink (fun _ => fresh) (key, link)).key
          (entryLink (fun _ => fresh) (key, link)).originalUrl with
      | some holder => exact start
      | none => exact put_holds d _ start found
  | batch fresh batch => exact holds_insertEntries_of_unheld put_holds fresh batch.toList start
  | tombstone requests => exact marked_holds d requests start
  | remove link => exact removed_holds d link start allowed

end Unheld

/-- The same of fit indexes, where a link comes in under a free key and to a free address. -/
theorem holds_next (fit : ∀ d, holds d → d.index.Fit)
    (put_holds : ∀ d own, holds d → d.index.byKey[own.key]? = none →
      ¬ LinkMap.Leads d.index.byKey own.originalUrl → holds (d.put own))
    (marked_holds : ∀ d requests, holds d → holds (d.tombstone requests))
    (removed_holds : ∀ d link, holds d → link ∈ d.recent → holds (d.remove link))
    (start : holds d) {change : Change} (allowed : d.Allows change) : holds (d.next change) := by
  refine holds_next_of_unheld (fun d own start unheld => ?_) marked_holds removed_holds start
    allowed
  obtain ⟨free, unled⟩ := (fit d start).holder?_eq_none_iff.mp unheld
  exact put_holds d own start free unled

end Changes

theorem Orderly.tracks (orderly : d.Orderly) : d.Tracks := ⟨orderly.stands, orderly.keys⟩

/-- A new link under a free key may be taken back as well. -/
theorem Orderly.put (orderly : d.Orderly) (free : d.index.byKey[own.key]? = none)
    (unled : ¬ LinkMap.Leads d.index.byKey own.originalUrl) : (d.put own).Orderly :=
  have unique : LinkMap.UniqueUrls (d.put own).index.byKey :=
    orderly.matched.unique.insert_iff.mpr fun other twin found url =>
      absurd ⟨other, twin, found, url⟩ unled
  have tracks := orderly.tracks.put free
  ⟨matched_iff.mpr ⟨orderly.matched.sound.put free, unique⟩, tracks.stands, tracks.keys⟩

theorem Orderly.tombstone (orderly : d.Orderly) (requests : List DeletionRequest) :
    (d.tombstone requests).Orderly :=
  have matched := matched_iff.mpr ⟨orderly.matched.sound.tombstone requests,
    orderly.matched.unique.tombstone requests⟩
  have tracks := orderly.tracks.tombstone requests
  ⟨matched, tracks.stands, tracks.keys⟩

theorem Orderly.remove (orderly : d.Orderly) (mem : link ∈ d.recent) : (d.remove link).Orderly :=
  have tracks := orderly.tracks.remove mem
  ⟨orderly.matched.remove (orderly.stands link mem), tracks.stands, tracks.keys⟩

/-- **One change** keeps a draft orderly. -/
theorem Orderly.next (orderly : d.Orderly) {change : Change} (allowed : d.Allows change) :
    (d.next change).Orderly :=
  holds_next (fun _ orderly => orderly.matched.sound.fit)
    (fun _ _ orderly free unled => orderly.put free unled)
    (fun _ requests orderly => orderly.tombstone requests)
    (fun _ _ orderly mem => orderly.remove mem) orderly allowed

/-- **The index keeps its shape and answers by it**, before and after every change of a sequence. -/
theorem matched_throughout {start : LinkIndex} (origin : Origin start) {changes : List Change}
    (along : Along next Allows ⟨start, []⟩ changes) :
    Throughout next
      (fun d => d.index.Matched ∧ ∀ fresh key link, d.index.Answered fresh key link)
      ⟨start, []⟩ changes := by
  have begun : Orderly ⟨start, []⟩ := ⟨origin.matched, by simp, .nil⟩
  refine (throughout_of_step (fun _ _ orderly allowed => orderly.next allowed) begun along).imp ?_
  exact fun d orderly => ⟨orderly.matched, orderly.matched.answered⟩

/-- A stored link with an owner. -/
def sampleLink : Link := ⟨"7", "s", "c.io", some "ann", false⟩

/-- Two links to one address. -/
def sampleTwins : LinkMap :=
  .ofList ([("p", ⟨"", "", "b.io", none, false⟩), ("q", ⟨"", "", "b.io", none, false⟩)] :
    List (String × Link))

/-- A link that is taken back in the end, a batch of the two links, and a deletion. -/
def sampleChanges : List Change :=
  [.insert "1" "x" ⟨"", "", "a.io", none, false⟩, .batch id sampleTwins,
    .tombstone [⟨"ann", ["s"]⟩], .remove ⟨"1", "x", "a.io", none, false⟩]

theorem matched_throughout_sampleChanges :
    Throughout next
      (fun d => d.index.Matched ∧ ∀ fresh key link, d.index.Answered fresh key link)
      ⟨ofMap ((∅ : LinkMap).insert sampleLink.key sampleLink), []⟩ sampleChanges := by
  have unique : LinkMap.UniqueUrls ((∅ : LinkMap).insert sampleLink.key sampleLink) :=
    LinkMap.uniqueUrls_empty.insert_iff.mpr (by simp)
  refine matched_throughout (.table (LinkMap.keyed_empty.insert sampleLink) unique (.refl _)) ?_
  refine ⟨trivial, trivial, trivial, ?_, trivial⟩
  simp only [Allows]
  decide +kernel

end Draft

end LinkIndex

end ShortLinks
