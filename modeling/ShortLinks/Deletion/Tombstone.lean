import ShortLinks.Deletion.Request
import ShortLinks.Link.Basic

/-!
Tombstones. A deletion request marks the links of its owner whose keys it names; every other
link stays as it is. `LinkMap.tombstone` is the table afterwards, together with whether any mark
was set.
-/

namespace ShortLinks

namespace Link

/-- Does a request of this user for this key ask to delete the link, which is not deleted yet? -/
def isDeletedBy (l : Link) (user key : String) : Bool :=
  l.isOwnedBy user && l.key = key && !l.deleted

end Link

namespace LinkMap

/-- The table after one pair of a user and a short key, and whether a mark was set. -/
def tombstonePair (links : LinkMap) (pair : String × String) : LinkMap × Bool :=
  let key := keyOf pair.2
  match links[key]? with
  | some link =>
      if link.isDeletedBy pair.1 key then (links.insert key link.markDeleted, true)
      else (links, false)
  | none => (links, false)

/-- The table after a list of pairs, and whether any mark was set. -/
def tombstonePairs (links : LinkMap) : List (String × String) → LinkMap × Bool
  | [] => (links, false)
  | pair :: rest =>
      let (after, marked) := tombstonePair links pair
      let (final, more) := tombstonePairs after rest
      (final, marked || more)

/-- The table after a list of requests, and whether any mark was set. -/
def tombstone (links : LinkMap) (requests : List DeletionRequest) : LinkMap × Bool :=
  tombstonePairs links (requests.flatMap DeletionRequest.pairs)

end LinkMap

end ShortLinks
