import Mathlib.Data.List.Induction
import Mathlib.Data.List.Nodup
import ShortLinks.Proofs.Deletion.Pending

/-!
Merging two requests is a union that keeps order.

* `FirstSeen` — the values of a list that an older list lacks, each once and in the order in which
  they first appear; `FirstAppearances` is the case where there is nothing older.
* `exists_foldl_addKey` — the loop of a merge leaves what was there and puts exactly the keys that
  are first seen behind it. It tests against the list that it extends, so the induction is on the
  keys from the end.
* `foldl_addKey_foldl` — adding keys to keys that were themselves added makes no difference.
* `merge_ordered_union` — what merging does, twice and three times too.
-/

namespace ShortLinks

section FirstSeen

variable {α : Type} [BEq α]

/-- The values of a list that an older list lacks: each once, in the order in which they first
appear in the list. -/
structure FirstSeen (older source listed : List α) : Prop where
  mem_iff : ∀ x, x ∈ listed ↔ x ∈ source ∧ x ∉ older
  ascending : listed.Pairwise fun x y => source.idxOf x < source.idxOf y

/-- The values of a list: each once, in the order in which they first appear in it. -/
abbrev FirstAppearances (source listed : List α) : Prop := FirstSeen [] source listed

variable {older source listed : List α} {x : α}

theorem FirstSeen.nodup (seen : FirstSeen older source listed) : listed.Nodup :=
  seen.ascending.imp fun before same => absurd (same ▸ before) (Nat.lt_irrefl _)

theorem firstSeen_nil (older : List α) : FirstSeen older [] [] :=
  ⟨fun x => by simp, .nil⟩

variable [LawfulBEq α]

/-- What is listed stays in order if the list that it comes from grows. -/
theorem FirstSeen.ascending_concat (seen : FirstSeen older source listed) (x : α) :
    listed.Pairwise fun y z => (source ++ [x]).idxOf y < (source ++ [x]).idxOf z := by
  refine seen.ascending.imp_of_mem fun {y z} memY memZ before => ?_
  rwa [List.idxOf_append_of_mem ((seen.mem_iff y).mp memY).1,
    List.idxOf_append_of_mem ((seen.mem_iff z).mp memZ).1]

/-- A value that is known already is not seen for the first time. -/
theorem FirstSeen.known (seen : FirstSeen older source listed) (present : x ∈ older ++ listed) :
    FirstSeen older (source ++ [x]) listed where
  mem_iff y := by
    rw [List.mem_append] at present
    rw [seen.mem_iff, List.mem_append, List.mem_singleton]
    constructor
    · rintro ⟨asked, unknown⟩
      exact ⟨.inl asked, unknown⟩
    · rintro ⟨asked | rfl, unknown⟩
      · exact ⟨asked, unknown⟩
      · exact (seen.mem_iff y).mp (present.resolve_left unknown)
  ascending := seen.ascending_concat x

/-- Any other value comes behind all that were seen before. -/
theorem FirstSeen.concat (seen : FirstSeen older source listed) (absent : x ∉ older ++ listed) :
    FirstSeen older (source ++ [x]) (listed ++ [x]) := by
  rw [List.mem_append, not_or] at absent
  obtain ⟨unknown, unlisted⟩ := absent
  have unasked : x ∉ source := fun asked => unlisted ((seen.mem_iff x).mpr ⟨asked, unknown⟩)
  refine ⟨fun y => ?_, ?_⟩
  · rw [List.mem_append, List.mem_append, List.mem_singleton, seen.mem_iff, or_and_right]
    refine or_congr_right ⟨?_, And.left⟩
    rintro rfl
    exact ⟨rfl, unknown⟩
  · rw [List.pairwise_append]
    refine ⟨seen.ascending_concat x, List.pairwise_singleton _ x, fun y memY z memZ => ?_⟩
    obtain rfl := List.mem_singleton.mp memZ
    have asked := ((seen.mem_iff y).mp memY).1
    have inside := List.idxOf_lt_length_of_mem asked
    rw [List.idxOf_append_of_mem asked, List.idxOf_append_of_notMem unasked]
    omega

end FirstSeen

namespace DeletionRequest

variable {key : String} {keys added : List String}

/-! ### Adding keys -/

theorem addKey_of_mem (present : key ∈ keys) : addKey keys key = keys := by
  simp [addKey, present]

theorem addKey_of_notMem (absent : key ∉ keys) : addKey keys key = keys ++ [key] := by
  simp [addKey, absent]

/-- **Keys are added behind those that are there:** the ones that were lacking, each once, in the
order of their first appearance. -/
theorem exists_foldl_addKey (keys asked : List String) :
    ∃ added, asked.foldl addKey keys = keys ++ added ∧ FirstSeen keys asked added := by
  induction asked using List.reverseRecOn with
  | nil => exact ⟨[], (List.append_nil keys).symm, firstSeen_nil keys⟩
  | append_singleton asked key ih =>
      obtain ⟨added, extended, seen⟩ := ih
      rw [List.foldl_append, extended, List.foldl_cons, List.foldl_nil]
      by_cases present : key ∈ keys ++ added
      · exact ⟨added, addKey_of_mem present, seen.known present⟩
      · refine ⟨added ++ [key], ?_, seen.concat present⟩
        rw [addKey_of_notMem present, List.append_assoc]

/-- Keys that are added to none come in the order of their first appearance. -/
theorem firstAppearances_foldl_addKey (asked : List String) :
    FirstAppearances asked (asked.foldl addKey []) := by
  obtain ⟨added, extended, seen⟩ := exists_foldl_addKey [] asked
  rwa [extended, List.nil_append]

/-- Keys that are there are not added. -/
theorem foldl_addKey_of_subset (present : ∀ key ∈ added, key ∈ keys) :
    added.foldl addKey keys = keys := by
  induction added with
  | nil => rfl
  | cons first rest ih =>
      obtain ⟨presentFirst, presentRest⟩ := List.forall_mem_cons.mp present
      rw [List.foldl_cons, addKey_of_mem presentFirst, ih presentRest]

/-- Keys that differ from each other and from those that are there are all added. -/
theorem foldl_addKey_of_nodup (distinct : (keys ++ added).Nodup) :
    added.foldl addKey keys = keys ++ added := by
  induction added generalizing keys with
  | nil => exact (List.append_nil keys).symm
  | cons first rest ih =>
      have absent : first ∉ keys := fun present =>
        (List.nodup_append.mp distinct).2.2 first present first List.mem_cons_self rfl
      rw [List.append_cons] at distinct
      rw [List.foldl_cons, addKey_of_notMem absent, ih distinct, ← List.append_cons]

/-- Adding the keys of a list that was itself extended is adding its keys and then those it was
extended by. -/
theorem foldl_addKey_foldl (asked added keys : List String) :
    (added.foldl addKey asked).foldl addKey keys
      = added.foldl addKey (asked.foldl addKey keys) := by
  induction added generalizing asked with
  | nil => rfl
  | cons first rest ih =>
      have once : (addKey asked first).foldl addKey keys
          = addKey (asked.foldl addKey keys) first := by
        by_cases present : first ∈ asked
        · rw [addKey_of_mem present, addKey_of_mem (mem_foldl_addKey.mpr (.inr present))]
        · rw [addKey_of_notMem present, List.foldl_append, List.foldl_cons, List.foldl_nil]
      rw [List.foldl_cons, List.foldl_cons, ih, once]

/-! ### Merging -/

theorem merge_keys (r other : DeletionRequest) :
    (r.merge other).keys = other.keys.foldl addKey r.keys := rfl

theorem nodup_merge {r : DeletionRequest} (distinct : r.keys.Nodup) (other : DeletionRequest) :
    (r.merge other).keys.Nodup := by
  obtain ⟨added, extended, seen⟩ := exists_foldl_addKey r.keys other.keys
  rw [merge_keys, extended, List.nodup_append]
  refine ⟨distinct, seen.nodup, ?_⟩
  rintro key present _ new rfl
  exact ((seen.mem_iff key).mp new).2 present

theorem merge_again (r other : DeletionRequest) :
    (r.merge other).merge other = r.merge other := by
  have present : ∀ key ∈ other.keys, key ∈ (r.merge other).keys := fun key asked =>
    mem_foldl_addKey.mpr (.inr asked)
  change DeletionRequest.mk r.owner (other.keys.foldl addKey (r.merge other).keys) = _
  rw [foldl_addKey_of_subset present]
  rfl

theorem merge_assoc (a b c : DeletionRequest) : (a.merge b).merge c = a.merge (b.merge c) :=
  congrArg (DeletionRequest.mk a.owner) (foldl_addKey_foldl b.keys c.keys a.keys).symm

/-- **Merging is a union that keeps order.** The owner and the keys of the first request stay in
front, whether or not they repeat a key. Behind them come exactly the keys of the second request
that the first one lacks, each once and in the order of their first appearance. No repetition is
made where there was none, merging a request again changes nothing, and three requests may be merged
from either side. -/
theorem merge_ordered_union (a b c : DeletionRequest) :
    (a.merge b).owner = a.owner ∧
      (∃ added, (a.merge b).keys = a.keys ++ added ∧ FirstSeen a.keys b.keys added) ∧
      (a.keys.Nodup → (a.merge b).keys.Nodup) ∧
      (a.merge b).merge b = a.merge b ∧
      (a.merge b).merge c = a.merge (b.merge c) :=
  ⟨rfl, exists_foldl_addKey a.keys b.keys, fun distinct => nodup_merge distinct b,
    merge_again a b, merge_assoc a b c⟩

theorem merge_ordered_union_repeating :
    (["a", "b"] : List String).Nodup ∧
      ((DeletionRequest.mk "ann" ["a", "b"]).merge ⟨"ann", ["c", "b", "c"]⟩).keys.Nodup := by
  have distinct : (["a", "b"] : List String).Nodup := by decide
  obtain ⟨-, -, kept, -⟩ :=
    merge_ordered_union ⟨"ann", ["a", "b"]⟩ ⟨"ann", ["c", "b", "c"]⟩ ⟨"ann", ["b", "d"]⟩
  exact ⟨distinct, kept distinct⟩

end DeletionRequest

end ShortLinks
