import Mathlib.Data.Finset.Card
import Mathlib.Data.List.Nodup
import ShortLinks.Proofs.Deletion.BackOff
import ShortLinks.Proofs.Deletion.Coalescing
import ShortLinks.Proofs.Deletion.Merging

/-!
What the buffer holds after requests were pushed into it.

* `map_owner_gathered` — its owners are those of the requests, in the order of their first
  appearance.
* `GatheredFrom`, `gatheredFrom_of_mem` — each of its requests is the first one of the owner with
  all later ones merged into it.
* `keyCount_eq_pairs`, `nodup_pairs_iff` — its keys are counted once each exactly if no request in
  it repeats a key.
* `HoldsEachOnce`, `holds_each_once_iff` — it holds every deletion once exactly if no first request
  repeats a key: a later request loses its repetitions when it is merged, a first one is taken as it
  came.
-/

namespace ShortLinks

namespace PendingBuffer

open DeletionRequest (addKey addKey_of_mem addKey_of_notMem pairs)

variable {requests list : List DeletionRequest} {request r : DeletionRequest}

/-! ### Owners -/

theorem map_owner_gather (request : DeletionRequest) (list : List DeletionRequest) :
    (gather request list).map (·.owner) = addKey (list.map (·.owner)) request.owner := by
  induction list with
  | nil => rfl
  | cons first rest ih =>
      rw [gather]
      split
      · next same =>
          rw [List.map_cons, List.map_cons, addKey_of_mem (by simp [same])]
          rfl
      · next other =>
          rw [List.map_cons, List.map_cons, ih]
          by_cases present : request.owner ∈ rest.map (·.owner)
          · rw [addKey_of_mem present, addKey_of_mem (List.mem_cons_of_mem _ present)]
          · have absent : request.owner ∉ first.owner :: rest.map (·.owner) := by
              simpa [Ne.symm other] using present
            rw [addKey_of_notMem present, addKey_of_notMem absent, List.cons_append]

theorem gathered_concat (requests : List DeletionRequest) (request : DeletionRequest) :
    gathered (requests ++ [request]) = (gathered requests).push request := by
  simp only [gathered, List.foldl_append, List.foldl_cons, List.foldl_nil]

theorem map_owner_gathered (requests : List DeletionRequest) :
    (gathered requests).requests.map (·.owner) = (requests.map (·.owner)).foldl addKey [] := by
  induction requests using List.reverseRecOn with
  | nil => rfl
  | append_singleton requests request ih =>
      rw [gathered_concat, push, map_owner_gather, ih, List.map_append, List.foldl_append]
      rfl

/-- The owners stand in the order of their first appearance. -/
theorem owners_gathered (requests : List DeletionRequest) :
    FirstAppearances (requests.map (·.owner)) ((gathered requests).requests.map (·.owner)) := by
  rw [map_owner_gathered]
  exact DeletionRequest.firstAppearances_foldl_addKey _

/-! ### Requests -/

/-- What gathering one more request leaves in a list with one request for each owner. -/
theorem mem_gather (distinct : (list.map (·.owner)).Nodup) (mem : r ∈ gather request list) :
    (r ∈ list ∧ r.owner ≠ request.owner) ∨
      (∃ old ∈ list, old.owner = request.owner ∧ r = old.merge request) ∨
      (r = request ∧ request.owner ∉ list.map (·.owner)) := by
  induction list with
  | nil => exact .inr (.inr ⟨List.mem_singleton.mp mem, List.not_mem_nil⟩)
  | cons first rest ih =>
      rw [List.map_cons, List.nodup_cons] at distinct
      rw [gather] at mem
      split at mem
      · next same =>
          obtain rfl | later := List.mem_cons.mp mem
          · exact .inr (.inl ⟨first, List.mem_cons_self, same, rfl⟩)
          · refine .inl ⟨List.mem_cons_of_mem _ later, fun again => distinct.1 ?_⟩
            rw [same, ← again]
            exact List.mem_map_of_mem later
      · next other =>
          obtain rfl | later := List.mem_cons.mp mem
          · exact .inl ⟨List.mem_cons_self, other⟩
          · obtain ⟨kept, differs⟩ | ⟨old, present, merged⟩ | ⟨new, absent⟩ := ih distinct.2 later
            · exact .inl ⟨List.mem_cons_of_mem _ kept, differs⟩
            · exact .inr (.inl ⟨old, List.mem_cons_of_mem _ present, merged⟩)
            · refine .inr (.inr ⟨new, ?_⟩)
              simpa [Ne.symm other] using absent

/-- The requests of an owner, in order. -/
def ofOwner (owner : String) (requests : List DeletionRequest) : List DeletionRequest :=
  requests.filter (·.owner = owner)

/-- A gathered request has the keys of the first one of its owner, and then those of the later ones
that are not there yet. -/
def GatheredFrom (requests : List DeletionRequest) (r : DeletionRequest) : Prop :=
  ∃ first later, ofOwner r.owner requests = first :: later ∧
    r.keys = (later.flatMap (·.keys)).foldl addKey first.keys

theorem gatheredFrom_of_mem (mem : r ∈ (gathered requests).requests) :
    GatheredFrom requests r := by
  induction requests using List.reverseRecOn generalizing r with
  | nil => exact absurd mem List.not_mem_nil
  | append_singleton requests request ih =>
      have owners := owners_gathered requests
      rw [gathered_concat, push] at mem
      obtain ⟨kept, differs⟩ | ⟨old, present, same, rfl⟩ | ⟨rfl, absent⟩ :=
        mem_gather owners.nodup mem
      · obtain ⟨first, later, own, keys⟩ := ih kept
        refine ⟨first, later, ?_, keys⟩
        rw [ofOwner, List.filter_append, ← ofOwner, own]
        simp [Ne.symm differs]
      · obtain ⟨first, later, own, keys⟩ := ih present
        refine ⟨first, later ++ [request], ?_, ?_⟩
        · change ofOwner old.owner (requests ++ [request]) = _
          rw [ofOwner, List.filter_append, ← ofOwner, own]
          simp [same]
        · rw [DeletionRequest.merge_keys, keys, List.flatMap_append, List.foldl_append,
            List.flatMap_singleton]
      · -- The owner is new to the buffer, so none of the requests before is of that owner.
        have none_before : ofOwner r.owner requests = [] := by
          refine List.filter_eq_nil_iff.mpr fun before mem same => absent ?_
          refine (owners.mem_iff _).mpr ⟨?_, List.not_mem_nil⟩
          rw [← of_decide_eq_true same]
          exact List.mem_map_of_mem mem
        refine ⟨r, [], ?_, rfl⟩
        rw [ofOwner, List.filter_append, ← ofOwner, none_before]
        simp

/-- The requests whose owners did not come before repeat no key. -/
def FirstsPlain (requests : List DeletionRequest) : Prop :=
  ∀ owner first, requests.find? (·.owner = owner) = some first → first.keys.Nodup

theorem find?_of_ofOwner {owner : String} {first : DeletionRequest} {later : List DeletionRequest}
    (own : ofOwner owner requests = first :: later) :
    requests.find? (·.owner = owner) = some first := by
  rw [← List.head?_filter, ← ofOwner, own, List.head?_cons]

/-- The keys of a gathered request are those that its owner asked for, each once and in order,
exactly if the first request of the owner repeats none. -/
theorem keys_gathered_iff {first : DeletionRequest} {later : List DeletionRequest}
    (own : ofOwner r.owner requests = first :: later)
    (keys : r.keys = (later.flatMap (·.keys)).foldl addKey first.keys) :
    FirstAppearances ((ofOwner r.owner requests).flatMap (·.keys)) r.keys ↔ first.keys.Nodup := by
  constructor
  · intro seen
    obtain ⟨added, extended, -⟩ :=
      DeletionRequest.exists_foldl_addKey first.keys (later.flatMap (·.keys))
    have distinct := seen.nodup
    rw [keys, extended] at distinct
    exact distinct.of_append_left
  · intro distinct
    have alone : first.keys.foldl addKey [] = first.keys :=
      DeletionRequest.foldl_addKey_of_nodup (by simpa using distinct)
    have listed : r.keys = ((first :: later).flatMap (·.keys)).foldl addKey [] := by
      rw [List.flatMap_cons, List.foldl_append, alone, keys]
    rw [own, listed]
    exact DeletionRequest.firstAppearances_foldl_addKey _

/-! ### Counting -/

theorem keyCount_eq_pairs (buffer : PendingBuffer) :
    buffer.keyCount = (buffer.requests.flatMap pairs).length := by
  simp [keyCount, List.length_flatMap, pairs]

theorem nodup_pairs_iff {buffer : PendingBuffer}
    (distinct : (buffer.requests.map (·.owner)).Nodup) :
    (buffer.requests.flatMap pairs).Nodup ↔ ∀ r ∈ buffer.requests, r.keys.Nodup := by
  have apart : buffer.requests.Pairwise (Function.onFun List.Disjoint pairs) := by
    refine (List.pairwise_map.mp distinct).imp fun {r twin} differ pair mem memTwin => ?_
    obtain ⟨owner, -⟩ := DeletionRequest.mem_pairs.mp mem
    obtain ⟨ownerTwin, -⟩ := DeletionRequest.mem_pairs.mp memTwin
    exact differ (owner.trans ownerTwin.symm)
  have inside (r : DeletionRequest) : r.pairs.Nodup ↔ r.keys.Nodup :=
    List.nodup_map_iff fun key twin same => (Prod.mk.inj same).2
  rw [List.nodup_flatMap, and_iff_left apart]
  simp only [inside]

/-- How many deletions requests ask for: pairs of an owner and a key that differ from each other. -/
def distinctCount (requests : List DeletionRequest) : Nat :=
  (requests.flatMap pairs).toFinset.card

/-- The buffer asks for as many different deletions as the requests. -/
theorem distinctCount_gathered (requests : List DeletionRequest) :
    distinctCount (gathered requests).requests = distinctCount requests := by
  have same : ((gathered requests).requests.flatMap pairs).toFinset
      = (requests.flatMap pairs).toFinset := by
    ext pair
    rw [List.mem_toFinset, List.mem_toFinset]
    exact gathered_wishes requests pair
  rw [distinctCount, same, distinctCount]

theorem distinctCount_le_keyCount (requests : List DeletionRequest) :
    distinctCount requests ≤ (gathered requests).keyCount := by
  rw [← distinctCount_gathered, keyCount_eq_pairs]
  exact List.toFinset_card_le _

theorem keyCount_gathered_iff (requests : List DeletionRequest) :
    (gathered requests).keyCount = distinctCount requests ↔
      ∀ r ∈ (gathered requests).requests, r.keys.Nodup := by
  rw [← nodup_pairs_iff (owners_gathered requests).nodup, ← distinctCount_gathered,
    keyCount_eq_pairs, eq_comm]
  exact Multiset.toFinset_card_eq_card_iff_nodup

/-! ### Each deletion once -/

/-- The buffer holds each deletion that the requests ask for once: one request for each owner, in
the order in which the owners first appear, with the keys of the owner in the order in which they
first appear. Its keys, and with them the threshold of a worker that has this buffer, are counted
accordingly. -/
structure HoldsEachOnce (requests : List DeletionRequest) (buffer : PendingBuffer) : Prop where
  owners : FirstAppearances (requests.map (·.owner)) (buffer.requests.map (·.owner))
  keys : ∀ r ∈ buffer.requests,
    FirstAppearances ((ofOwner r.owner requests).flatMap (·.keys)) r.keys
  count : buffer.keyCount = distinctCount requests
  due : ∀ w : Worker, w.buffer = buffer →
    (w.isDue = true ↔ w.backingOff = false ∧ w.settings.maxPending ≤ distinctCount requests)

/-- **When the buffer holds each deletion once.** After any requests there is one for each owner, in
the order in which the owners first appeared; its keys are those of the owner's first request as
they came, and then, each once and in order, the keys of the later ones that were lacking. So never
too few keys are counted, and each deletion is held once exactly if no owner's first request repeats
a key. -/
theorem holds_each_once_iff (requests : List DeletionRequest) :
    FirstAppearances (requests.map (·.owner)) ((gathered requests).requests.map (·.owner)) ∧
      (∀ r ∈ (gathered requests).requests, ∃ first later added,
        ofOwner r.owner requests = first :: later ∧ r.keys = first.keys ++ added ∧
          FirstSeen first.keys (later.flatMap (·.keys)) added) ∧
      distinctCount requests ≤ (gathered requests).keyCount ∧
      (HoldsEachOnce requests (gathered requests) ↔ FirstsPlain requests) := by
  have owners := owners_gathered requests
  refine ⟨owners, fun r mem => ?_, distinctCount_le_keyCount requests, ?_, ?_⟩
  · obtain ⟨first, later, own, keys⟩ := gatheredFrom_of_mem mem
    obtain ⟨added, extended, seen⟩ :=
      DeletionRequest.exists_foldl_addKey first.keys (later.flatMap (·.keys))
    exact ⟨first, later, added, own, keys.trans extended, seen⟩
  · intro once owner first found
    -- The owner has a request in the buffer, and its keys begin with those of the first request.
    have asked : owner ∈ requests.map (·.owner) :=
      List.mem_map.mpr ⟨first, List.mem_of_find?_eq_some found,
        by simpa using List.find?_some found⟩
    obtain ⟨r, mem, rfl⟩ :=
      List.mem_map.mp ((owners.mem_iff owner).mpr ⟨asked, List.not_mem_nil⟩)
    obtain ⟨first', later, own, keys⟩ := gatheredFrom_of_mem mem
    obtain rfl : first' = first := Option.some.inj ((find?_of_ofOwner own).symm.trans found)
    exact (keys_gathered_iff own keys).mp (once.keys r mem)
  · intro plain
    have keys : ∀ r ∈ (gathered requests).requests,
        FirstAppearances ((ofOwner r.owner requests).flatMap (·.keys)) r.keys := by
      intro r mem
      obtain ⟨first, later, own, keys⟩ := gatheredFrom_of_mem mem
      exact (keys_gathered_iff own keys).mpr (plain r.owner first (find?_of_ofOwner own))
    have count := (keyCount_gathered_iff requests).mpr fun r mem => (keys r mem).nodup
    refine ⟨owners, keys, count, ?_⟩
    rintro w same
    rw [Worker.isDue_iff, same, count]

/-- A request that names a key twice, as the first one of its owner: the key is held twice, and the
threshold of two keys is reached by one deletion. -/
theorem repeatedKey_heldTwice :
    ¬ HoldsEachOnce [⟨"ann", ["a", "a"]⟩] (gathered [⟨"ann", ["a", "a"]⟩]) ∧
      (gathered [⟨"ann", ["a", "a"]⟩]).keyCount = 2 ∧
      distinctCount [⟨"ann", ["a", "a"]⟩] = 1 ∧
      ({ settings := { maxPending := 2 }
         buffer := gathered [⟨"ann", ["a", "a"]⟩] } : Worker).isDue = true := by
  have counted : (gathered [⟨"ann", ["a", "a"]⟩]).keyCount = 2 := by decide
  have distinct : distinctCount [⟨"ann", ["a", "a"]⟩] = 1 := by decide
  refine ⟨fun once => ?_, counted, distinct, by decide⟩
  have same := once.count
  rw [counted, distinct] at same
  exact absurd same (by decide)

end PendingBuffer

end ShortLinks
