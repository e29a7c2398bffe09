import ShortLinks.Proofs.Link.Key
import ShortLinks.Proofs.Store.Authority
import ShortLinks.Proofs.Store.InMemory

/-!
Stored links under their own keys.

* `FoundIf` — a link is read by its own key, and deleted by it, exactly under some condition.
* `foundIf_own` — a link that stands in table and keeper is found if its key is its own key.
* `found_by_own_key_iff` — after any usage of store and keeper in memory, a link that is stored is
  found exactly if its key is no address with a host.

A key is computed when a link is stored and once more when it is asked for. `/http:x` has the key
`http:x`, which reads as an address with the host `x` and an empty key.
-/

namespace ShortLinks

/-- What one pair that names a link by its own key makes of it. -/
theorem LinkMap.afterPairs_own {user : String} {link : Link} (owned : link.owner = some user) :
    afterPairs [(user, link.key)] link.key link
      = if keyOf link.key = link.key then link.markDeleted else link := by
  simp [afterPairs, askedFor, Link.isOwnedBy, owned]

namespace Store

/-- A stored link is read by its own key exactly under this condition, and a request of its owner
for the key, which always succeeds, marks it exactly under this condition. -/
structure FoundIf (condition : Prop) [Decidable condition] (store : Store) (keeper : MemoryKeeper)
    (stored : Link) : Prop where
  read : store.getLink stored.key = .ok stored ↔ condition
  deleted : ∀ user, stored.owner = some user → ∃ after keeper',
    store.deleteLinks keeper [⟨user, [stored.key]⟩] = ⟨.ok (), after, keeper'⟩ ∧
      after.getLink stored.shortUrl
        = .ok (if condition then stored.markDeleted else stored) ∧
      keeper'.links.byKey[stored.key]?
        = some (if condition then stored.markDeleted else stored)

/-- A link that stands in table and keeper is found if its key is its own key. -/
theorem foundIf_own {store : Store} {keeper : MemoryKeeper} {stored : Link}
    (keyed : LinkMap.Keyed store.links) (stands : store.links[stored.key]? = some stored)
    (kept : keeper.links.byKey[stored.key]? = some stored) :
    FoundIf (keyOf stored.key = stored.key) store keeper stored where
  read := by rw [getLink_key_iff keyed rfl, and_iff_left stands]
  deleted := by
    intro user owned
    have marked {links : LinkMap} (found : links[stored.key]? = some stored) :
        (LinkMap.tombstone links [⟨user, [stored.key]⟩]).1[stored.key]?
          = some (if keyOf stored.key = stored.key then stored.markDeleted else stored) := by
      rw [LinkMap.getElem?_tombstone, found, ← LinkMap.afterPairs_own owned]
      rfl
    exact ⟨_, _, rfl, getLink_eq_ok_iff.mpr (marked stands), marked kept⟩

/-- **When a link is found by its own key.** A key names itself exactly if it is no address with a
host. Whatever was done with store and keeper in memory, a link that is stored is then found by its
key exactly if that is so. -/
theorem found_by_own_key_iff (shortUrl : String) (usages : List Usage) (fresh key : String)
    (link : Link) {stored : Link} {store : Store} {keeper : MemoryKeeper}
    (created : (inUse usages).1.insertLink (inUse usages).2 fresh key link
      = ⟨.ok (.created stored), store, keeper⟩) :
    (keyOf (keyOf shortUrl) = keyOf shortUrl ↔ Url.hostedPath? (keyOf shortUrl).toList = none) ∧
      FoundIf (Url.hostedPath? stored.key.toList = none) store keeper stored := by
  refine ⟨keyOf_keyOf_iff, ?_⟩
  have after : Write.next (inUse usages) (.link fresh key link) = (store, keeper) := by
    simp only [Write.next, Write.outcome, created, Outcome.status]
  have orderly := Usage.next_orderly (inUse usages) (.writing (.link fresh key link))
    (orderly_inUse usages)
  rw [Usage.next, after] at orderly
  obtain ⟨index, links⟩ := insertLink_of_ok (congrArg Outcome.answer created)
  rw [created] at index links
  have stands : store.links[stored.key]? = some stored := by
    rw [links]
    exact Std.ExtTreeMap.getElem?_insert_self
  have kept : keeper.links.byKey[stored.key]? = some stored := by
    have put := LinkIndex.eq_of_insert_created index
    change keeper.links = _ at put
    rw [put]
    exact Std.ExtTreeMap.getElem?_insert_self
  have itself : (keyOf stored.key = stored.key) = (Url.hostedPath? stored.key.toList = none) :=
    propext keyOf_keyOf_iff
  simpa only [itself] using foundIf_own orderly.keyed stands kept

-- The host of `http:xn--dca` would stand for a capital letter, which no domain holds.
example : keyOf (keyOf "/http:xn--dca") = keyOf "/http:xn--dca" := by decide +kernel

/-- A link whose key reads as an address. -/
def addressKey : Link := ⟨"7", "/http:x", "u1", some "ann", false⟩

/-- A link reaches the keeper past the store, which is opened anew. -/
def behindAndAnew : List Usage := [.past (.save "1" "b" ⟨"", "", "u2", none, false⟩), .reopening]

theorem found_by_own_key_iff_addressKey :
    ∃ store keeper, (inUse behindAndAnew).1.insertLink (inUse behindAndAnew).2 "2" "a" addressKey
        = ⟨.ok (.created addressKey), store, keeper⟩ ∧
      (keyOf (keyOf "/http:x") = keyOf "/http:x" ↔
        Url.hostedPath? (keyOf "/http:x").toList = none) ∧
      FoundIf (Url.hostedPath? addressKey.key.toList = none) store keeper addressKey :=
  ⟨_, _, rfl, found_by_own_key_iff "/http:x" behindAndAnew "2" "a" addressKey rfl⟩

/-- What storing the link does. -/
def addressKeyStored : Outcome MemoryKeeper (Inserted Link) :=
  (inUse []).1.insertLink (inUse []).2 "1" "a" addressKey

/-- What a request of its owner for its key does. -/
def addressKeyDeleted : Outcome MemoryKeeper Unit :=
  addressKeyStored.store.deleteLinks addressKeyStored.keeper [⟨"ann", ["http:x"]⟩]

/-- The link is stored, but its key does not find it, and its owner cannot delete it by the key. -/
theorem addressKey_lost :
    keyOf "/http:x" = "http:x" ∧ keyOf "http:x" = "" ∧
      addressKeyStored.answer = .ok (.created addressKey) ∧
      addressKeyStored.store.getLink "http:x" = .error (.noSuchLink "") ∧
      addressKeyDeleted.answer = .ok () ∧
      addressKeyDeleted.store.getLink "/http:x" = .ok addressKey ∧
      addressKeyDeleted.keeper.links.byKey["http:x"]? = some addressKey := by
  have key : keyOf "/http:x" = "http:x" := by decide +kernel
  have other : keyOf "http:x" = "" := by decide +kernel
  have absent : addressKeyStored.store.links[""]? = none := by decide +kernel
  have stays : addressKeyDeleted.store.links["http:x"]? = some addressKey := by decide +kernel
  refine ⟨key, other, rfl, ?_, rfl, ?_, by decide +kernel⟩
  · rw [getLink, other, absent]
  · rw [getLink_eq_ok_iff, key, stays]

end Store

end ShortLinks
