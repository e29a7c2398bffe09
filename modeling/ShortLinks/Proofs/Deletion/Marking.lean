import ShortLinks.Keeper.Memory
import ShortLinks.Proofs.Deletion.Pending
import ShortLinks.Proofs.Store.Write

/-!
What a list of deletion requests marks.

* `AsksToDelete`, `SameWishes` — what a list of requests asks for, owner by owner and key by key,
  and lists that ask for the same in whatever order and however often.
* `tombstonePairs_changes_iff` — a mark is set exactly if a link is asked for that has none.
* `tombstone_congr`, `tombstone_append`, `tombstone_again` — the table afterwards depends on what is
  asked for alone, one list after another acts as both together, and a list that is carried out
  again does nothing.
* `Tombstoned` — the table afterwards, link by link. `tombstone_exact` says so of the index and of
  the table of a store.
-/

namespace ShortLinks

/-! ### What requests ask for -/

/-- Do the requests ask to delete what this owner has under this key? -/
def AsksToDelete (requests : List DeletionRequest) (owner : Option String) (key : String) : Prop :=
  ∃ request ∈ requests, owner = some request.owner ∧ ∃ short ∈ request.keys, key = keyOf short

/-- Do two lists of requests ask for the same, in whatever order and however often? -/
def SameWishes (requests other : List DeletionRequest) : Prop :=
  ∀ pair, pair ∈ requests.flatMap DeletionRequest.pairs ↔
    pair ∈ other.flatMap DeletionRequest.pairs

theorem asksToDelete_iff {requests : List DeletionRequest} {owner : Option String} {key : String} :
    AsksToDelete requests owner key ↔ ∃ pair ∈ requests.flatMap DeletionRequest.pairs,
      owner = some pair.1 ∧ key = keyOf pair.2 := by
  constructor
  · rintro ⟨request, mem, own, short, named, same⟩
    exact ⟨(request.owner, short),
      List.mem_flatMap.mpr ⟨request, mem, DeletionRequest.mem_pairs.mpr ⟨rfl, named⟩⟩, own, same⟩
  · rintro ⟨pair, mem, own, same⟩
    obtain ⟨request, among, mem⟩ := List.mem_flatMap.mp mem
    obtain ⟨owner, named⟩ := DeletionRequest.mem_pairs.mp mem
    exact ⟨request, among, owner ▸ own, pair.2, named, same⟩

namespace LinkMap

variable {links : LinkMap} {pairs others : List (String × String)} {key : String} {link : Link}
  {requests other : List DeletionRequest}

/-! ### Marks -/

theorem askedFor_iff : askedFor pairs key link = true ↔
    link.key = key ∧ ∃ pair ∈ pairs, link.owner = some pair.1 ∧ link.key = keyOf pair.2 := by
  simp only [askedFor, List.any_eq_true, Bool.and_eq_true, decide_eq_true_eq, Link.isOwnedBy]
  constructor
  · rintro ⟨pair, mem, ⟨asks, owner⟩, own⟩
    exact ⟨own, pair, mem, owner, own.trans asks.symm⟩
  · rintro ⟨own, pair, mem, owner, asks⟩
    exact ⟨pair, mem, ⟨asks.symm.trans own, owner⟩, own⟩

/-- A link under its own key is asked for by the pairs of requests if the requests ask for it. -/
theorem askedFor_pairs_iff (own : link.key = key) :
    askedFor (requests.flatMap DeletionRequest.pairs) key link = true ↔
      AsksToDelete requests link.owner link.key := by
  rw [askedFor_iff, asksToDelete_iff, and_iff_right own]

theorem askedFor_congr (same : ∀ pair, pair ∈ pairs ↔ pair ∈ others) (key : String) (link : Link) :
    askedFor pairs key link = askedFor others key link := by
  rw [Bool.eq_iff_iff, askedFor_iff, askedFor_iff]
  simp only [same]

/-- A list of pairs changes nothing of a link but its mark. -/
theorem afterPairs_eq (pairs : List (String × String)) (key : String) (link : Link) :
    afterPairs pairs key link
      = { link with deleted := link.deleted || askedFor pairs key link } := by
  unfold afterPairs
  cases askedFor pairs key link with
  | false => simp
  | true => simp [Link.markDeleted]

theorem of_tombstonePair_changes {pair : String × String}
    (changed : (tombstonePair links pair).2 = true) :
    ∃ link, links[keyOf pair.2]? = some link ∧ link.deleted = false ∧
      askedFor [pair] (keyOf pair.2) link = true := by
  unfold tombstonePair at changed
  cases found : links[keyOf pair.2]? with
  | none => simp [found] at changed
  | some link =>
      simp only [found] at changed
      split at changed
      · next asked =>
          simp only [Link.isDeletedBy, Link.isOwnedBy, Bool.and_eq_true, decide_eq_true_eq,
            Bool.not_eq_true'] at asked
          obtain ⟨⟨owner, own⟩, unmarked⟩ := asked
          exact ⟨link, rfl, unmarked, askedFor_iff.mpr ⟨own, pair, List.mem_cons_self, owner, own⟩⟩
      · cases changed

/-- A mark is set exactly if a link is asked for that has none. -/
theorem tombstonePairs_changes_iff : (tombstonePairs links pairs).2 = true ↔
    ∃ (key : String) (link : Link), links[key]? = some link ∧ link.deleted = false ∧
      askedFor pairs key link = true := by
  constructor
  · intro changed
    induction pairs generalizing links with
    | nil => cases changed
    | cons pair rest ih =>
        have either (key : String) (link : Link) : askedFor (pair :: rest) key link
            = (askedFor [pair] key link || askedFor rest key link) := by
          simp [askedFor]
        simp only [tombstonePairs, Bool.or_eq_true] at changed
        rcases changed with first | later
        · obtain ⟨link, found, unmarked, asked⟩ := of_tombstonePair_changes first
          exact ⟨_, link, found, unmarked, by rw [either, asked, Bool.true_or]⟩
        · obtain ⟨key, link, found, unmarked, asked⟩ := ih later
          rw [getElem?_tombstonePair] at found
          obtain ⟨before, stood, rfl⟩ := Option.map_eq_some_iff.mp found
          -- What has no mark after the first pair had none before, and its owner and key are kept.
          rw [afterPairs_eq] at unmarked asked
          rw [Bool.or_eq_false_iff] at unmarked
          have asked : askedFor rest key before = true := asked
          exact ⟨key, before, stood, unmarked.1, by rw [either, asked, Bool.or_true]⟩
  · rintro ⟨key, link, found, unmarked, asked⟩
    by_contra unchanged
    have after := getElem?_tombstonePairs pairs links key
    rw [tombstonePairs_eq_self (Bool.eq_false_iff.mpr unchanged), found, Option.map_some,
      afterPairs_eq, asked, Bool.or_true] at after
    rw [Option.some.inj after] at unmarked
    cases unmarked

/-! ### Lists of requests -/

/-- What a list of requests does depends on what it asks for alone. -/
theorem tombstone_congr (same : SameWishes requests other) :
    tombstone links requests = tombstone links other := by
  refine Prod.ext (Std.ExtTreeMap.ext_getElem? fun {key} => ?_) (Bool.eq_iff_iff.mpr ?_)
  · rw [getElem?_tombstone, getElem?_tombstone]
    refine Option.map_congr fun link _ => ?_
    rw [afterPairs_eq, afterPairs_eq, askedFor_congr same]
  · rw [tombstone, tombstone, tombstonePairs_changes_iff, tombstonePairs_changes_iff]
    simp only [askedFor_congr same]

/-- One list of requests after another acts as both together. -/
theorem tombstone_append (first later : List DeletionRequest) :
    tombstone links (first ++ later) = ((tombstone (tombstone links first).1 later).1,
      (tombstone links first).2 || (tombstone (tombstone links first).1 later).2) := by
  unfold tombstone
  rw [List.flatMap_append]
  generalize first.flatMap DeletionRequest.pairs = pairs
  induction pairs generalizing links with
  | nil => simp [tombstonePairs]
  | cons pair rest ih => simp only [List.cons_append, tombstonePairs, ih, Bool.or_assoc]

/-- A list of requests that is carried out again does nothing. -/
theorem tombstone_again (links : LinkMap) (requests : List DeletionRequest) :
    tombstone (tombstone links requests).1 requests = ((tombstone links requests).1, false) := by
  have unchanged : (tombstone (tombstone links requests).1 requests).2 = false := by
    by_contra changed
    obtain ⟨key, link, found, unmarked, asked⟩ :=
      tombstonePairs_changes_iff.mp (Bool.not_eq_false _ ▸ changed)
    rw [getElem?_tombstone] at found
    obtain ⟨before, -, rfl⟩ := Option.map_eq_some_iff.mp found
    -- A mark changes neither the owner nor the key, so the link was asked for the first time, too.
    rw [afterPairs_eq] at unmarked asked
    rw [Bool.or_eq_false_iff] at unmarked
    exact Bool.false_ne_true (unmarked.2.symm.trans asked)
  exact Prod.ext (tombstonePairs_eq_self unchanged) unchanged

/-- A table after a list of requests: every link stands where it stood and differs in its mark
alone, which is set if it was set before or if a request of the owner asks for the key of the
link. Nothing comes in. -/
structure Tombstoned (requests : List DeletionRequest) (before after : LinkMap) : Prop where
  kept : ∀ (key : String) (link : Link), before[key]? = some link → ∃ now, after[key]? = some now ∧
    now = { link with deleted := now.deleted } ∧
    (now.deleted = true ↔ link.deleted = true ∨ AsksToDelete requests link.owner link.key)
  nothingNew : ∀ key : String, before[key]? = none → after[key]? = none

theorem Keyed.tombstoned (keyed : Keyed links) (requests : List DeletionRequest) :
    Tombstoned requests links (LinkMap.tombstone links requests).1 where
  kept := by
    intro key link found
    refine ⟨_, by rw [getElem?_tombstone, found, Option.map_some], ?_, ?_⟩
    · rw [afterPairs_eq]
    · rw [afterPairs_eq, Bool.or_eq_true, askedFor_pairs_iff (keyed key link found)]
  nothingNew := by
    intro key free
    rw [getElem?_tombstone, free, Option.map_none]

/-- A mark is said to be set exactly if that of some link changed. -/
theorem tombstone_changes_iff : (LinkMap.tombstone links requests).2 = true ↔
    ∃ (key : String) (link now : Link), links[key]? = some link ∧
      (LinkMap.tombstone links requests).1[key]? = some now ∧ now.deleted ≠ link.deleted := by
  have differs (deleted asked : Bool) :
      (deleted || asked) ≠ deleted ↔ deleted = false ∧ asked = true := by
    cases deleted <;> cases asked <;> simp
  refine tombstonePairs_changes_iff.trans ?_
  simp only [getElem?_tombstone]
  constructor
  · rintro ⟨key, link, found, unmarked⟩
    refine ⟨key, link, _, found, by rw [found, Option.map_some], ?_⟩
    rw [afterPairs_eq]
    exact (differs _ _).mpr unmarked
  · rintro ⟨key, link, now, found, stands, changed⟩
    rw [found, Option.map_some, Option.some.injEq] at stands
    rw [← stands, afterPairs_eq] at changed
    exact ⟨key, link, found, (differs _ _).mp changed⟩

variable {before after : LinkMap}

/-- What has no owner stays as it is. -/
theorem Tombstoned.anonymous (marked : Tombstoned requests before after)
    (found : before[key]? = some link) (anonymous : link.owner = none) :
    after[key]? = some link := by
  obtain ⟨now, stands, same, deleted⟩ := marked.kept key link found
  have unasked : ¬ AsksToDelete requests link.owner link.key := by
    rintro ⟨request, -, owner, -⟩
    rw [anonymous] at owner
    cases owner
  rw [or_iff_left unasked, ← Bool.eq_iff_iff] at deleted
  rw [stands, same, deleted]

end LinkMap

/-! ### Index and store -/

open LinkMap (Keyed Tombstoned)

/-- **Deletions mark exactly what they ask for**, in the index and in the table of a store alike.
Every link differs in its mark alone, which is set if it was set before or if a request of the owner
asks for the key of the link; a link without an owner stays. Neither the order of requests and keys
nor their repetition matters, and carrying the list out again does nothing. The index says whether
the mark of any link changed; the store does all this if its keeper takes the deletions. -/
theorem tombstone_exact {links : LinkMap} (keyed : Keyed links) (requests : List DeletionRequest) :
    (∀ index : LinkIndex, index.byKey = links →
      Tombstoned requests links (index.tombstone requests).1.byKey ∧
      (index.tombstone requests).1.keyByUrl = index.keyByUrl ∧
      ((index.tombstone requests).2 = true ↔ ∃ (key : String) (link now : Link),
        links[key]? = some link ∧ (index.tombstone requests).1.byKey[key]? = some now ∧
          now.deleted ≠ link.deleted) ∧
      (∀ (key : String) (link : Link), links[key]? = some link → link.owner = none →
        (index.tombstone requests).1.byKey[key]? = some link) ∧
      (∀ other, SameWishes requests other → index.tombstone other = index.tombstone requests) ∧
      (index.tombstone requests).1.tombstone requests = ((index.tombstone requests).1, false)) ∧
    ∀ {σ : Type} [Keeper σ] (store : Store) (keeper : σ), store.links = links →
      (store.deleteLinks keeper requests).answer = .ok () →
      Tombstoned requests links (store.deleteLinks keeper requests).store.links ∧
      (store.deleteLinks keeper requests).store.users = store.users ∧
      (∀ (key : String) (link : Link), links[key]? = some link → link.owner = none →
        (store.deleteLinks keeper requests).store.links[key]? = some link) ∧
      (∀ (other : List DeletionRequest) (beside : σ), SameWishes requests other →
        (store.deleteLinks beside other).answer = .ok () →
        (store.deleteLinks beside other).store = (store.deleteLinks keeper requests).store) ∧
      ∀ later : σ,
        ((store.deleteLinks keeper requests).store.deleteLinks later requests).answer = .ok () →
        ((store.deleteLinks keeper requests).store.deleteLinks later requests).store
          = (store.deleteLinks keeper requests).store := by
  have marked := keyed.tombstoned requests
  constructor
  · rintro index rfl
    refine ⟨marked, rfl, ?_, fun key link => marked.anonymous, ?_, ?_⟩
    · exact LinkMap.tombstone_changes_iff
    · intro other same
      simp only [LinkIndex.tombstone, LinkMap.tombstone_congr same]
    · simp only [LinkIndex.tombstone, LinkMap.tombstone_again]
  · rintro σ _ store keeper rfl ok
    rw [Store.deleteLinks_eq_of_ok ok]
    refine ⟨marked, rfl, fun key link => marked.anonymous, ?_, ?_⟩
    · intro other beside same okBeside
      rw [Store.deleteLinks_eq_of_ok okBeside, LinkMap.tombstone_congr same]
    · intro later okLater
      rw [Store.deleteLinks_eq_of_ok okLater]
      simp only [LinkMap.tombstone_again]

/-- A link of one owner, and one without an owner. -/
def ownedAndAnonymous : LinkMap :=
  let owned : Link := { shortUrl := "a", originalUrl := "u", owner := some "ann" }
  let anonymous : Link := { shortUrl := "b", originalUrl := "v" }
  ((∅ : LinkMap).insert owned.key owned).insert anonymous.key anonymous

/-- The owner asks for one key twice, and for the key of the link without an owner. -/
def repeatedKeys : List DeletionRequest := [⟨"ann", ["a", "b", "a"]⟩]

theorem tombstone_exact_ownedAndAnonymous :
    Keyed ownedAndAnonymous ∧
      (Store.deleteLinks ⟨ownedAndAnonymous, ∅⟩ ({} : MemoryKeeper) repeatedKeys).answer = .ok () ∧
      Tombstoned repeatedKeys ownedAndAnonymous
        (Store.deleteLinks ⟨ownedAndAnonymous, ∅⟩ ({} : MemoryKeeper) repeatedKeys).store.links ∧
      Tombstoned repeatedKeys ownedAndAnonymous
        (LinkIndex.tombstone (.ofMap ownedAndAnonymous) repeatedKeys).1.byKey := by
  have keyed : Keyed ownedAndAnonymous := (LinkMap.keyed_empty.insert _).insert _
  have ok : (Store.deleteLinks ⟨ownedAndAnonymous, ∅⟩ ({} : MemoryKeeper) repeatedKeys).answer
      = .ok () := rfl
  obtain ⟨index, store⟩ := tombstone_exact keyed repeatedKeys
  have marked := store ⟨ownedAndAnonymous, ∅⟩ ({} : MemoryKeeper) rfl ok
  exact ⟨keyed, ok, marked.1, (index (.ofMap _) (LinkIndex.byKey_ofList (.refl _))).1⟩

end ShortLinks
