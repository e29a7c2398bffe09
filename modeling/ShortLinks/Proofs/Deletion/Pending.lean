import ShortLinks.Deletion.Pending

/-!
What the buffer asks for, pair by pair.

* `mem_pairs_merge`, `mem_pairs_push`, `mem_foldl_push` — merging two requests of one owner, and
  pushing requests into a buffer, adds the pairs of what comes later and loses none of the first.
-/

namespace ShortLinks

namespace DeletionRequest

variable {r other : DeletionRequest} {key : String} {keys added : List String}
  {pair : String × String}

theorem mem_addKey {new : String} : key ∈ addKey keys new ↔ key ∈ keys ∨ key = new := by
  unfold addKey
  split
  · next present =>
      have present : new ∈ keys := by simpa using present
      exact ⟨.inl, fun either => either.elim id fun same => same ▸ present⟩
  · simp

theorem mem_foldl_addKey : key ∈ added.foldl addKey keys ↔ key ∈ keys ∨ key ∈ added := by
  induction added generalizing keys with
  | nil => simp
  | cons first rest ih => rw [List.foldl_cons, ih, mem_addKey, List.mem_cons, or_assoc]

theorem mem_pairs : pair ∈ r.pairs ↔ r.owner = pair.1 ∧ pair.2 ∈ r.keys := by
  constructor
  · intro mem
    obtain ⟨key, asked, rfl⟩ := List.mem_map.mp mem
    exact ⟨rfl, asked⟩
  · rintro ⟨own, mem⟩
    exact List.mem_map.mpr ⟨pair.2, mem, by rw [own]⟩

theorem mem_pairs_merge (same : r.owner = other.owner) :
    pair ∈ (r.merge other).pairs ↔ pair ∈ r.pairs ∨ pair ∈ other.pairs := by
  simp only [mem_pairs, merge, mem_foldl_addKey, same, and_or_left]

theorem pairs_eq_nil_of_isEmpty (blank : r.keys.isEmpty = true) : r.pairs = [] := by
  rw [pairs, List.isEmpty_iff.mp blank, List.map_nil]

end DeletionRequest

namespace PendingBuffer

open DeletionRequest (pairs mem_pairs_merge)

variable {pair : String × String} {request : DeletionRequest}

theorem mem_pairs_gather {requests : List DeletionRequest} :
    pair ∈ (gather request requests).flatMap pairs ↔
      pair ∈ requests.flatMap pairs ∨ pair ∈ request.pairs := by
  induction requests with
  | nil => simp [gather]
  | cons first rest ih =>
      rw [gather]
      split
      · next same =>
          simp only [List.flatMap_cons, List.mem_append, mem_pairs_merge same]
          exact or_right_comm
      · simp only [List.flatMap_cons, List.mem_append, ih, or_assoc]

theorem mem_pairs_push {buffer : PendingBuffer} :
    pair ∈ (buffer.push request).requests.flatMap pairs ↔
      pair ∈ buffer.requests.flatMap pairs ∨ pair ∈ request.pairs :=
  mem_pairs_gather

/-- Requests that are pushed one after the other add their pairs. -/
theorem mem_foldl_push {requests : List DeletionRequest} {buffer : PendingBuffer} :
    pair ∈ (requests.foldl push buffer).requests.flatMap pairs ↔
      pair ∈ requests.flatMap pairs ∨ pair ∈ buffer.requests.flatMap pairs := by
  induction requests generalizing buffer with
  | nil => simp
  | cons request rest ih =>
      rw [List.foldl_cons, ih, mem_pairs_push, List.flatMap_cons, List.mem_append,
        or_comm (b := pair ∈ request.pairs), ← or_assoc, or_comm (a := pair ∈ rest.flatMap _)]

end PendingBuffer

end ShortLinks
