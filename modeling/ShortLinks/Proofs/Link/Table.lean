import Mathlib.Data.List.Nodup
import ShortLinks.Deletion.Tombstone

/-!
Tables of links, entry by entry.

* `Keyed`, `UniqueUrls` — the two laws of a table: an entry stands under the key of its own link,
  and no two entries lead to one address.
* `Within` — every entry of one table stands in another one.
* `getElem?_tombstone` — a list of requests acts on each entry alone: it marks the entries that
  one of its pairs asks for and changes nothing else, so both laws survive it.
-/

namespace ShortLinks

namespace LinkMap

/-- Every entry stands under the key of its own link. -/
def Keyed (links : LinkMap) : Prop :=
  ∀ (key : String) (link : Link), links[key]? = some link → link.key = key

/-- No two entries lead to one address. -/
def UniqueUrls (links : LinkMap) : Prop :=
  ∀ (key other : String) (link twin : Link), links[key]? = some link → links[other]? = some twin →
    link.originalUrl = twin.originalUrl → key = other

/-- Some entry leads to this address. -/
def Leads (links : LinkMap) (url : String) : Prop :=
  ∃ (key : String) (link : Link), links[key]? = some link ∧ link.originalUrl = url

/-- Every entry of a table stands in another one. -/
def Within (links larger : LinkMap) : Prop :=
  ∀ (key : String) (link : Link), links[key]? = some link → larger[key]? = some link

theorem keyed_empty : Keyed (∅ : LinkMap) := by
  intro key link found
  simp at found

theorem uniqueUrls_empty : UniqueUrls (∅ : LinkMap) := by
  intro key other link twin found
  simp at found

/-- A link under its own key keeps a table keyed. -/
theorem Keyed.insert {links : LinkMap} (keyed : Keyed links) (link : Link) :
    Keyed (links.insert link.key link) := by
  intro key found present
  rw [Std.ExtTreeMap.getElem?_insert] at present
  split at present
  · next same => exact Option.some.inj present ▸ Std.LawfulEqCmp.eq_of_compare same
  · exact keyed key found present

/-- Putting in what stands there changes nothing. -/
theorem insert_eq_self {links : LinkMap} {key : String} {link : Link}
    (found : links[key]? = some link) : links.insert key link = links := by
  refine Std.ExtTreeMap.ext_getElem? fun {other} => ?_
  by_cases same : key = other
  · subst same
    simp [found]
  · simp [Std.ExtTreeMap.getElem?_insert, same]

theorem UniqueUrls.of_within {links larger : LinkMap} (unique : UniqueUrls larger)
    (within : Within links larger) : UniqueUrls links :=
  fun key other link twin found foundTwin =>
    unique key other link twin (within key link found) (within other twin foundTwin)

theorem Within.insert {links larger : LinkMap} (within : Within links larger) (own : String)
    (stored : Link) : Within (links.insert own stored) (larger.insert own stored) := by
  intro key link found
  by_cases same : own = key
  · subst same
    simpa using found
  · rw [Std.ExtTreeMap.getElem?_insert, if_neg (by simpa using same)] at found ⊢
    exact within key link found

/-- A link under a key keeps addresses unique exactly when no other key leads to its address. -/
theorem UniqueUrls.insert_iff {links : LinkMap} (unique : UniqueUrls links) {key : String}
    {link : Link} : UniqueUrls (links.insert key link) ↔
      ∀ (other : String) (twin : Link), links[other]? = some twin →
        twin.originalUrl = link.originalUrl → other = key := by
  constructor
  · intro uniqueAfter other twin found same
    by_cases own : key = other
    · exact own.symm
    · exact uniqueAfter other key twin link
        (by simpa [Std.ExtTreeMap.getElem?_insert, own] using found) (by simp) same
  · intro alone first second link₁ link₂ found₁ found₂ same
    by_cases own₁ : key = first <;> by_cases own₂ : key = second
    · exact own₁.symm.trans own₂
    · subst own₁
      obtain rfl : link = link₁ := by simpa using found₁
      have old₂ : links[second]? = some link₂ := by
        simpa [Std.ExtTreeMap.getElem?_insert, own₂] using found₂
      exact (alone second link₂ old₂ same.symm).symm
    · subst own₂
      obtain rfl : link = link₂ := by simpa using found₂
      have old₁ : links[first]? = some link₁ := by
        simpa [Std.ExtTreeMap.getElem?_insert, own₁] using found₁
      exact alone first link₁ old₁ same
    · exact unique first second link₁ link₂
        (by simpa [Std.ExtTreeMap.getElem?_insert, own₁] using found₁)
        (by simpa [Std.ExtTreeMap.getElem?_insert, own₂] using found₂) same

/-- Taking an entry out keeps a table keyed. -/
theorem Keyed.erase {links : LinkMap} (keyed : Keyed links) (gone : String) :
    Keyed (links.erase gone) := by
  intro key found present
  rw [Std.ExtTreeMap.getElem?_erase] at present
  split at present
  · cases present
  · exact keyed key found present

/-! ### Tables from lists of entries -/

/-- The requested keys of a table are distinct. -/
theorem keys_nodup (links : LinkMap) : (links.toList.map (·.1)).Nodup := by
  rw [List.Nodup, List.pairwise_map]
  refine links.distinct_keys_toList.imp fun distinct same => ?_
  simp [same] at distinct

/-- The table with entries that are put in one after the other. -/
def insertAll (links : LinkMap) (entries : List (String × Link)) : LinkMap :=
  entries.foldl (fun links entry => links.insert entry.1 entry.2) links

/-- What stands in a table was there before or is one of the entries. -/
theorem of_getElem?_insertAll {links : LinkMap} {entries : List (String × Link)} {key : String}
    {link : Link} (found : (insertAll links entries)[key]? = some link) :
    links[key]? = some link ∨ (key, link) ∈ entries := by
  induction entries generalizing links with
  | nil => exact .inl found
  | cons entry rest ih =>
      rcases ih found with old | mem
      · by_cases same : entry.1 = key
        · subst same
          obtain rfl : entry.2 = link := by simpa using old
          exact .inr List.mem_cons_self
        · exact .inl (by simpa [Std.ExtTreeMap.getElem?_insert, same] using old)
      · exact .inr (List.mem_cons_of_mem _ mem)

/-- What no entry replaces stays. -/
theorem getElem?_insertAll_of_notMem {links : LinkMap} {entries : List (String × Link)}
    {key : String} (absent : key ∉ entries.map (·.1)) :
    (insertAll links entries)[key]? = links[key]? := by
  induction entries generalizing links with
  | nil => rfl
  | cons entry rest ih =>
      rw [List.map_cons, List.mem_cons, not_or] at absent
      refine (ih absent.2).trans ?_
      simp [Std.ExtTreeMap.getElem?_insert, Ne.symm absent.1]

/-- Under the key of an entry something stands afterwards. -/
theorem getElem?_insertAll_ne_none {links : LinkMap} {entries : List (String × Link)}
    {key : String} (named : key ∈ entries.map (·.1)) : (insertAll links entries)[key]? ≠ none := by
  induction entries generalizing links with
  | nil => cases named
  | cons entry rest ih =>
      by_cases again : key ∈ rest.map (·.1)
      · exact ih again
      · obtain rfl : key = entry.1 := (List.mem_cons.mp named).resolve_right again
        have stands : (insertAll links (entry :: rest))[entry.1]? = some entry.2 :=
          (getElem?_insertAll_of_notMem again).trans (by simp)
        rw [stands]
        exact Option.some_ne_none _

/-- An entry with which the others of its key agree stands in the table. -/
theorem getElem?_insertAll_of_agree {links : LinkMap} {entries : List (String × Link)}
    (entry : String × Link) (agree : ∀ other ∈ entries, other.1 = entry.1 → other = entry)
    (mem : entry ∈ entries) : (insertAll links entries)[entry.1]? = some entry.2 := by
  induction entries generalizing links with
  | nil => cases mem
  | cons first rest ih =>
      by_cases again : entry.1 ∈ rest.map (·.1)
      · obtain ⟨other, otherMem, same⟩ := List.mem_map.mp again
        obtain rfl := agree other (List.mem_cons_of_mem _ otherMem) same
        exact ih (fun e mem => agree e (List.mem_cons_of_mem _ mem)) otherMem
      · obtain rfl : entry = first := by
          rcases List.mem_cons.mp mem with rfl | mem
          · rfl
          · exact absurd (List.mem_map_of_mem mem) again
        exact (getElem?_insertAll_of_notMem again).trans (by simp)

theorem getElem?_insertAll_of_mem {links : LinkMap} {entries : List (String × Link)} {key : String}
    {link : Link} (distinct : (entries.map (·.1)).Nodup) (mem : (key, link) ∈ entries) :
    (insertAll links entries)[key]? = some link :=
  getElem?_insertAll_of_agree (key, link) (fun _ otherMem same =>
    List.inj_on_of_nodup_map distinct otherMem mem same) mem

/-- Links under their keys, as entries of a table. -/
def entriesOf (links : List Link) : List (String × Link) := links.map fun link => (link.key, link)

/-- Changing every entry before it is put in changes what stands in the table. -/
theorem getElem?_insertAll_map {change : String → Link → Link} {links changed : LinkMap}
    {entries : List (String × Link)}
    (start : ∀ key : String, changed[key]? = links[key]?.map (change key)) (key : String) :
    (insertAll changed (entries.map fun entry => (entry.1, change entry.1 entry.2)))[key]?
      = (insertAll links entries)[key]?.map (change key) := by
  induction entries generalizing links changed with
  | nil => exact start key
  | cons entry rest ih =>
      refine ih fun other => ?_
      by_cases own : entry.1 = other
      · subst own
        simp
      · simp [Std.ExtTreeMap.getElem?_insert, own, start]

/-- The entries of a table, in any order, make up the table. -/
theorem insertAll_toList {links : LinkMap} {entries : List (String × Link)}
    (order : entries.Perm links.toList) : insertAll ∅ entries = links := by
  have distinct : (entries.map (·.1)).Nodup := (order.map (·.1)).nodup_iff.mpr (keys_nodup links)
  refine Std.ExtTreeMap.ext_getElem? fun {key} => Option.ext fun link => ?_
  rw [← Std.ExtTreeMap.mem_toList_iff_getElem?_eq_some (t := links), ← order.mem_iff]
  constructor
  · intro found
    rcases of_getElem?_insertAll found with old | mem
    · simp at old
    · exact mem
  · exact fun mem => getElem?_insertAll_of_mem distinct mem

/-! ### Tombstones -/

/-- Does one of the pairs ask to delete this link under this key? -/
def askedFor (pairs : List (String × String)) (key : String) (link : Link) : Bool :=
  pairs.any fun pair => keyOf pair.2 = key && link.isOwnedBy pair.1 && link.key = key

/-- What a list of pairs makes of the link under a key. -/
def afterPairs (pairs : List (String × String)) (key : String) (link : Link) : Link :=
  if askedFor pairs key link then link.markDeleted else link

@[simp] theorem afterPairs_key (pairs : List (String × String)) (key : String) (link : Link) :
    (afterPairs pairs key link).key = link.key := by
  unfold afterPairs
  split <;> rfl

@[simp] theorem afterPairs_originalUrl (pairs : List (String × String)) (key : String)
    (link : Link) : (afterPairs pairs key link).originalUrl = link.originalUrl := by
  unfold afterPairs
  split <;> rfl

/-- A link stays as it is, or one of the pairs asks to delete it. -/
theorem afterPairs_cases (pairs : List (String × String)) (key : String) (link : Link) :
    afterPairs pairs key link = link ∨ ∃ pair ∈ pairs,
      afterPairs pairs key link = link.markDeleted ∧
        link.owner = some pair.1 ∧ link.key = keyOf pair.2 := by
  unfold afterPairs
  cases asked : askedFor pairs key link with
  | false => exact .inl (if_neg Bool.false_ne_true)
  | true =>
      obtain ⟨pair, among, asks⟩ := List.any_eq_true.mp asked
      simp only [Bool.and_eq_true, decide_eq_true_eq, Link.isOwnedBy] at asks
      obtain ⟨⟨asksKey, owner⟩, own⟩ := asks
      exact .inr ⟨pair, among, if_pos rfl, owner, own.trans asksKey.symm⟩

@[simp] theorem afterPairs_nil (key : String) : afterPairs [] key = id := rfl

/-- Marks add up: the later pairs act on what the first one left. -/
theorem afterPairs_cons (pair : String × String) (rest : List (String × String)) (key : String) :
    afterPairs (pair :: rest) key = afterPairs rest key ∘ afterPairs [pair] key := by
  funext link
  -- A mark changes neither the owner nor the key, so the later pairs ask for the same links.
  have asks : askedFor rest key link.markDeleted = askedFor rest key link := rfl
  have split_asks : askedFor (pair :: rest) key link
      = (askedFor [pair] key link || askedFor rest key link) := by
    simp [askedFor]
  by_cases first : askedFor [pair] key link = true
  · by_cases later : askedFor rest key link = true
    · simp [afterPairs, split_asks, first, later, Link.markDeleted]
    · simp [afterPairs, split_asks, first, later, asks]
  · simp [afterPairs, split_asks, first]

/-- One pair acts on the entry under its key alone. -/
theorem getElem?_tombstonePair (links : LinkMap) (pair : String × String) (key : String) :
    (tombstonePair links pair).1[key]? = links[key]?.map (afterPairs [pair] key) := by
  have asked (link : Link) : askedFor [pair] key link
      = (keyOf pair.2 = key && link.isOwnedBy pair.1 && link.key = key) := by
    simp [askedFor]
  have effect : afterPairs [pair] key = fun link =>
      if keyOf pair.2 = key && link.isOwnedBy pair.1 && link.key = key then link.markDeleted
      else link := by
    funext link
    rw [afterPairs, asked]
  rw [effect]
  unfold tombstonePair
  generalize keyOf pair.2 = target
  cases found : links[target]? with
  | none => grind
  | some link =>
      -- A link that is marked before is the same link afterwards.
      have marked (before : link.deleted = true) : link.markDeleted = link := by
        simp [Link.markDeleted, ← before]
      grind [Link.isDeletedBy]

theorem getElem?_tombstonePairs (pairs : List (String × String)) (links : LinkMap)
    (key : String) :
    (tombstonePairs links pairs).1[key]? = links[key]?.map (afterPairs pairs key) := by
  induction pairs generalizing links with
  | nil => simp [tombstonePairs]
  | cons pair rest ih =>
      rw [tombstonePairs, ih, getElem?_tombstonePair, Option.map_map, ← afterPairs_cons]

/-- **A list of requests acts on each entry alone.** -/
theorem getElem?_tombstone (links : LinkMap) (requests : List DeletionRequest) (key : String) :
    (tombstone links requests).1[key]?
      = links[key]?.map (afterPairs (requests.flatMap DeletionRequest.pairs) key) :=
  getElem?_tombstonePairs _ links key

theorem tombstonePair_eq_self {links : LinkMap} {pair : String × String}
    (unmarked : (tombstonePair links pair).2 = false) : (tombstonePair links pair).1 = links := by
  unfold tombstonePair at unmarked ⊢
  generalize keyOf pair.2 = target at unmarked ⊢
  cases found : links[target]? with
  | none => simp only [found]
  | some link =>
      simp only [found] at unmarked ⊢
      split at unmarked
      · cases unmarked
      · next notAsked => simp [notAsked]

/-- Without a mark that is set, the table stays as it is. -/
theorem tombstonePairs_eq_self {pairs : List (String × String)} {links : LinkMap}
    (unmarked : (tombstonePairs links pairs).2 = false) :
    (tombstonePairs links pairs).1 = links := by
  induction pairs generalizing links with
  | nil => rfl
  | cons pair rest ih =>
      simp only [tombstonePairs, Bool.or_eq_false_iff] at unmarked ⊢
      have first := tombstonePair_eq_self unmarked.1
      rw [first] at unmarked ⊢
      exact ih unmarked.2

theorem Keyed.tombstone {links : LinkMap} (keyed : Keyed links)
    (requests : List DeletionRequest) : Keyed (tombstone links requests).1 := by
  intro key link present
  rw [getElem?_tombstone] at present
  obtain ⟨before, found, rfl⟩ := Option.map_eq_some_iff.mp present
  simpa using keyed key before found

theorem Within.tombstone {links larger : LinkMap} (within : Within links larger)
    (requests : List DeletionRequest) :
    Within (tombstone links requests).1 (tombstone larger requests).1 := by
  intro key link present
  rw [getElem?_tombstone] at present ⊢
  obtain ⟨before, found, rfl⟩ := Option.map_eq_some_iff.mp present
  rw [within key before found]
  rfl

theorem UniqueUrls.tombstone {links : LinkMap} (unique : UniqueUrls links)
    (requests : List DeletionRequest) : UniqueUrls (tombstone links requests).1 := by
  intro key other link twin present presentTwin same
  rw [getElem?_tombstone] at present presentTwin
  obtain ⟨before, found, rfl⟩ := Option.map_eq_some_iff.mp present
  obtain ⟨twinBefore, twinFound, rfl⟩ := Option.map_eq_some_iff.mp presentTwin
  exact unique key other before twinBefore found twinFound (by simpa using same)

end LinkMap

end ShortLinks
