import ShortLinks.Proofs.Link.Table
import ShortLinks.Store

/-!
What is read from the table by short links.

* `LinkMap.Shows`, `Store.Reads` — a link with some property stands under a key, or is read by a
  short link.
* `Store.forall_reads_iff` — a keyed table is read by every short link exactly as it stands, so
  whatever can be read stays readable exactly when it stays in the table.
-/

namespace ShortLinks

namespace LinkMap

variable {links : LinkMap} {P : Link → Prop} {key : String}

/-- A link with this property stands under this key. -/
def Shows (links : LinkMap) (P : Link → Prop) (key : String) : Prop :=
  ∃ link, links[key]? = some link ∧ P link

/-- A property that marks keep survives a deletion. -/
theorem Shows.tombstone (shows : Shows links P key) (marks : ∀ link, P link → P link.markDeleted)
    (requests : List DeletionRequest) : Shows (tombstone links requests).1 P key := by
  obtain ⟨link, found, holds⟩ := shows
  refine ⟨_, by rw [getElem?_tombstone, found, Option.map_some], ?_⟩
  unfold afterPairs
  split
  · exact marks link holds
  · exact holds

end LinkMap

namespace Store

open LinkMap (Shows)

variable {store after : Store} {P : Link → Prop} {shortUrl : String}

theorem getLink_eq_ok_iff {link : Link} :
    store.getLink shortUrl = .ok link ↔ store.links[keyOf shortUrl]? = some link := by
  unfold getLink
  cases store.links[keyOf shortUrl]? with
  | none => simp
  | some found => simp

/-- A link with this property is read by this short link. -/
def Reads (store : Store) (P : Link → Prop) (shortUrl : String) : Prop :=
  ∃ link, store.getLink shortUrl = .ok link ∧ P link

theorem reads_iff : store.Reads P shortUrl ↔ Shows store.links P (keyOf shortUrl) := by
  simp only [Reads, getLink_eq_ok_iff, Shows]

/-- In a keyed table every link can be read. -/
theorem forall_reads_iff (keyed : LinkMap.Keyed store.links) :
    (∀ shortUrl, store.Reads P shortUrl → after.Reads P shortUrl) ↔
      ∀ key, Shows store.links P key → Shows after.links P key := by
  simp only [reads_iff]
  constructor
  · rintro kept key ⟨link, found, holds⟩
    obtain rfl : keyOf link.shortUrl = key := keyed key link found
    exact kept link.shortUrl ⟨link, found, holds⟩
  · exact fun kept shortUrl => kept (keyOf shortUrl)

end Store

end ShortLinks
