import ShortLinks.Proofs.Keeper.Faltering
import ShortLinks.Proofs.Keeper.Records
import ShortLinks.Proofs.Text.ByteOrder

/-!
The list of a user's links.

* `Lists`, `lists_of_keyed` — where links stand under their own keys, the list has each link of the
  user once, by ascending short links, in whatever order the table gives them out.
* `Write.next_keyed`, `Write.next_keeper` — a write keeps the table so, however the keeper answers,
  and calls the keeper once at most.
* `Episode` — a store that is written to and opened anew. `Episode.next_ordered` is one step.
* `lists_throughout` — so the lists of a store over any keeper that settings choose are such lists
  at any time, whichever calls of the keeper fail.
-/

namespace ShortLinks

namespace LinkMap

/-! ### The links of a table -/

theorem mem_values_iff {links : LinkMap} {link : Link} :
    link ∈ links.values ↔ ∃ key : String, links[key]? = some link := by
  rw [FileKeeper.values_eq_map_toList, List.mem_map]
  constructor
  · rintro ⟨⟨key, stored⟩, mem, rfl⟩
    exact ⟨key, Std.ExtTreeMap.mem_toList_iff_getElem?_eq_some.mp mem⟩
  · rintro ⟨key, found⟩
    exact ⟨(key, link), Std.ExtTreeMap.mem_toList_iff_getElem?_eq_some.mpr found, rfl⟩

/-- Where links stand under their own keys, no two of them share a short link. -/
theorem Keyed.eq_of_shortUrl {links : LinkMap} (keyed : Keyed links) {link other : Link}
    (mem : link ∈ links.values) (otherMem : other ∈ links.values)
    (same : link.shortUrl = other.shortUrl) : link = other := by
  obtain ⟨key, found⟩ := mem_values_iff.mp mem
  obtain ⟨otherKey, otherFound⟩ := mem_values_iff.mp otherMem
  have own : key = otherKey :=
    calc key = link.key := (keyed key link found).symm
      _ = other.key := congrArg keyOf same
      _ = otherKey := keyed otherKey other otherFound
  subst own
  exact Option.some.inj (found.symm.trans otherFound)

theorem Keyed.nodup_values {links : LinkMap} (keyed : Keyed links) : links.values.Nodup := by
  have keys : (links.values.map Link.key) = links.toList.map (·.1) := by
    rw [FileKeeper.values_eq_map_toList, List.map_map]
    refine List.map_congr_left fun entry mem => ?_
    exact keyed entry.1 entry.2 (Std.ExtTreeMap.mem_toList_iff_getElem?_eq_some.mp mem)
  have distinct : (links.values.map Link.key).Nodup := keys ▸ keys_nodup links
  exact distinct.of_map

end LinkMap

namespace Store

/-! ### Links in order -/

theorem sortLinks_ascending (links : List Link) :
    (sortLinks links).Pairwise fun a b => a.shortUrl ≤ b.shortUrl := by
  refine (List.pairwise_mergeSort ?_ ?_ links).imp fun upTo => by simpa using upTo
  · intro a b c first second
    simp only [decide_eq_true_eq] at first second ⊢
    exact le_trans first second
  · intro a b
    simpa using le_total a.shortUrl b.shortUrl

/-- Links with different short links have one order. -/
theorem sortLinks_eq_of_perm {links order : List Link} (perm : order.Perm links)
    (distinct : ∀ a ∈ links, ∀ b ∈ links, a.shortUrl = b.shortUrl → a = b) :
    sortLinks order = sortLinks links := by
  have inOrder : (sortLinks order).Perm links := (List.mergeSort_perm _ _).trans perm
  have inLinks : (sortLinks links).Perm links := List.mergeSort_perm _ _
  refine (inOrder.trans inLinks.symm).eq_of_pairwise (fun a b memA memB upTo downTo => ?_)
    (sortLinks_ascending order) (sortLinks_ascending links)
  exact distinct a (inOrder.mem_iff.mp memA) b (inLinks.mem_iff.mp memB) (le_antisymm upTo downTo)

/-- What a list of the links of a user says about a table. -/
structure Lists (links : LinkMap) (user : String) (listed : List Link) : Prop where
  /-- It has the links of the user and no others, -/
  mem_iff : ∀ link, link ∈ listed ↔
    link.owner = some user ∧ ∃ key : String, links[key]? = some link
  /-- each of them once, -/
  nodup : listed.Nodup
  /-- by the bytes of their short links, no two of which are the same, -/
  ascending : listed.Pairwise fun a b => Text.bytes a.shortUrl < Text.bytes b.shortUrl
  /-- whatever the order in which the table gives its links out. -/
  anyOrder : ∀ order : List Link, order.Perm links.values →
    sortLinks (order.filter (·.isOwnedBy user)) = listed

theorem lists_of_keyed {store : Store} (keyed : LinkMap.Keyed store.links) (user : String) :
    Lists store.links user (store.linksOf user) := by
  have perm : (store.linksOf user).Perm (store.links.values.filter (·.isOwnedBy user)) :=
    List.mergeSort_perm _ _
  have distinct : ∀ a ∈ store.links.values.filter (·.isOwnedBy user),
      ∀ b ∈ store.links.values.filter (·.isOwnedBy user), a.shortUrl = b.shortUrl → a = b :=
    fun a memA b memB => keyed.eq_of_shortUrl (List.mem_of_mem_filter memA)
      (List.mem_of_mem_filter memB)
  have nodup : (store.linksOf user).Nodup := perm.nodup_iff.mpr (keyed.nodup_values.filter _)
  constructor
  case mem_iff =>
    intro link
    rw [perm.mem_iff, List.mem_filter, LinkMap.mem_values_iff, Link.isOwnedBy, decide_eq_true_eq,
      and_comm]
  case nodup => exact nodup
  case ascending =>
    refine ((sortLinks_ascending _).and nodup).imp_of_mem fun {a b} memA memB both => ?_
    obtain ⟨upTo, apart⟩ := both
    refine Text.bytes_lt_iff.mpr (lt_of_le_of_ne upTo fun same => apart ?_)
    exact distinct a (perm.mem_iff.mp memA) b (perm.mem_iff.mp memB) same
  case anyOrder =>
    intro order orderPerm
    exact sortLinks_eq_of_perm (orderPerm.filter _) distinct

end Store

/-! ### Writes -/

open LinkMap (Keyed)

theorem Store.reconcile_keyed {links : LinkMap} (keyed : Keyed links) (batch : LinkMap)
    (skipped : List (String × Link)) : Keyed (reconcile batch links skipped) := by
  refine foldl_of_step (fun links skip keyed => ?_) keyed skipped
  obtain ⟨requested, holder⟩ := skip
  rw [reconcileEntry_eq]
  split
  · exact (keyed.erase requested).insert holder
  · exact keyed.insert holder

namespace Write

variable {σ : Type} [Keeper σ] {state : Store × σ}

/-- A write keeps links under their own keys, whatever the keeper answers. -/
theorem next_keyed (keyed : Keyed state.1.links) (write : Write) :
    Keyed (write.next state).1.links := by
  obtain ⟨store, keeper⟩ := state
  cases write with
  | link fresh key record =>
      change Keyed (store.insertLink keeper fresh key record).store.links
      unfold Store.insertLink
      split
      · exact keyed.insert _
      · exact keyed
  | user fresh email record =>
      change Keyed (store.insertUser keeper fresh email record).store.links
      unfold Store.insertUser
      split
      · exact keyed
      · exact keyed
  | batch call =>
      change Keyed (store.insertInOrder keeper call).store.links
      have merged : Keyed (call.merge store.links) := call.merge_keyed keyed
      unfold Store.insertInOrder Store.insertNormalised
      split
      · exact keyed
      · dsimp only
        split
        · exact Store.reconcile_keyed merged _ _
        · exact merged
  | deletion requests =>
      change Keyed (store.deleteLinks keeper requests).store.links
      unfold Store.deleteLinks
      split
      · exact keyed
      · split
        · exact keyed.tombstone requests
        · exact keyed

/-- A write calls the keeper once at most. -/
theorem next_keeper (state : Store × σ) (write : Write) :
    (write.next state).2 = state.2 ∨
      ∃ call : KeeperCall, (write.next state).2 = (call.perform state.2).2 := by
  obtain ⟨store, keeper⟩ := state
  cases write with
  | link fresh key record =>
      refine .inr ⟨.save fresh key record, ?_⟩
      change (store.insertLink keeper fresh key record).keeper
        = (Keeper.save fresh key record keeper).2
      unfold Store.insertLink
      split
      · next answered => rw [answered]
      · next answered => rw [answered]
  | user fresh email record =>
      refine .inr ⟨.saveUser fresh email record, ?_⟩
      change (store.insertUser keeper fresh email record).keeper
        = (Keeper.saveUser fresh email record keeper).2
      unfold Store.insertUser
      split
      · next answered => rw [answered]
      · next answered => rw [answered]
  | batch call =>
      by_cases blank : call.batch.isEmpty = true
      · refine .inl ?_
        change (store.insertInOrder keeper call).keeper = keeper
        rw [Store.insertInOrder, if_pos blank]
      · refine .inr ⟨.saveBatch call.fresh call.normal, ?_⟩
        change (store.insertInOrder keeper call).keeper
          = (Keeper.saveBatch call.fresh call.normal keeper).2
        rw [Store.insertInOrder, if_neg blank, Store.insertNormalised]
        split
        · next answered => rw [answered]
        · next answered => rw [answered]
  | deletion requests =>
      by_cases blank : (requests.all (·.keys.isEmpty)) = true
      · refine .inl ?_
        change (store.deleteLinks keeper requests).keeper = keeper
        rw [Store.deleteLinks, if_pos blank]
      · refine .inr ⟨.updateBatch requests, ?_⟩
        change (store.deleteLinks keeper requests).keeper = (Keeper.updateBatch requests keeper).2
        rw [Store.deleteLinks, if_neg blank]
        split
        · next answered => rw [answered]
        · next answered => rw [answered]

end Write

/-! ### Runs -/

/-- What happens to a store: it is opened over its keeper, or written to. -/
inductive Episode where
  | opening
  | writing (write : Write)

namespace Episode

variable {σ : Type} [Keeper σ]

/-- Store and keeper after an episode. -/
def next (state : Store × σ) : Episode → Store × σ
  | .opening => Store.ofKeeper state.2
  | .writing write => write.next state

variable [KeyedKeeper σ]

open KeyedKeeper (Lawful perform_lawful load_keyed)

/-- Links stand under their own keys, and the keeper is lawful. -/
structure Ordered (state : Store × σ) : Prop where
  keyed : Keyed state.1.links
  lawful : Lawful state.2

/-- A store that is opened over a lawful keeper shows what the keeper loads, or nothing. -/
theorem ordered_ofKeeper {keeper : σ} (lawful : Lawful keeper) :
    Ordered (Store.ofKeeper keeper) := by
  have afterLinks : Lawful (Keeper.load keeper).2 := perform_lawful .load lawful
  refine ⟨?_, perform_lawful .loadUsers afterLinks⟩
  change Keyed ((Keeper.load keeper).1.toOption.getD ∅)
  cases loaded : (Keeper.load keeper).1 with
  | ok links => exact load_keyed lawful loaded
  | error fault => exact LinkMap.keyed_empty

/-- **One episode** keeps a store and its keeper in order. -/
theorem next_ordered (state : Store × σ) (episode : Episode) (ordered : Ordered state) :
    Ordered (episode.next state) := by
  cases episode with
  | opening => exact ordered_ofKeeper ordered.lawful
  | writing write =>
      refine ⟨Write.next_keyed ordered.keyed write, ?_⟩
      change Lawful (write.next state).2
      rcases write.next_keeper state with same | ⟨call, called⟩
      · rw [same]
        exact ordered.lawful
      · rw [called]
        exact perform_lawful call ordered.lawful

/-- Before and after every episode each user is listed. -/
theorem lists_of_lawful {keeper : σ} (lawful : Lawful keeper) (episodes : List Episode) :
    Throughout next
      (fun state => Keyed state.1.links ∧
        ∀ user, Store.Lists state.1.links user (state.1.linksOf user))
      (Store.ofKeeper keeper) episodes := by
  have ordered : Throughout next Ordered (Store.ofKeeper keeper) episodes :=
    throughout_of_step (fun state episode ordered _ => next_ordered state episode ordered)
      (ordered_ofKeeper lawful) (along_true _ episodes)
  exact ordered.imp fun state ordered =>
    ⟨ordered.keyed, fun user => Store.lists_of_keyed ordered.keyed user⟩

end Episode

/-- **The list of a user's links is complete, without doubles and in order**, at any time of any run
of a store over a keeper that settings choose, on any disk and over any servers, whichever calls of
the keeper fail; and links stand under their own keys. -/
theorem Store.lists_throughout {around : Surroundings} {settings : StorageSettings} {disk : Disk}
    {keeper : Backend × Disk} (chosen : Backend.ofSettings around settings disk = .ok keeper)
    {plan : Nat → Option (Failure (Backend × Disk))} (harmless : Faltering.Harmless plan)
    (episodes : List Episode) :
    Throughout Episode.next
      (fun state => Keyed state.1.links ∧
        ∀ user, Lists state.1.links user (state.1.linksOf user))
      (ofKeeper (Faltering.mk keeper plan 0)) episodes := by
  have lawful : KeyedKeeper.Lawful (Faltering.mk keeper plan 0) :=
    ⟨Backend.lawful_ofSettings chosen, harmless⟩
  exact Episode.lists_of_lawful lawful episodes

namespace Store

/-- The fourth call fails and leaves the keeper as it was. -/
def fourthFails : Nat → Option (Failure (Backend × Disk)) := fun n =>
  if n = 3 then some ⟨Unreliable.unreachable, id⟩ else none

/-- A link, and a batch in the fourth call: the first two load what there is. -/
def batchFails : List Episode :=
  [.writing (.link "1" "b" ⟨"", "", "u1", some "ann", false⟩),
    .writing (.batch (.tagged "" [("a", ⟨"", "", "u2", some "ann", false⟩)]))]

theorem lists_throughout_batchFails :
    Backend.ofSettings {} {} {} = .ok (.memory {}, {}) ∧ Faltering.Harmless fourthFails ∧
      Throughout Episode.next
        (fun state => Keyed state.1.links ∧
          ∀ user, Lists state.1.links user (state.1.linksOf user))
        (ofKeeper (Faltering.mk (Backend.memory {}, {}) fourthFails 0)) batchFails ∧
      (batchFails.foldl Episode.next
        (ofKeeper (Faltering.mk (Backend.memory {}, {}) fourthFails 0))).1.links.keys
        = ["a", "b"] := by
  have chosen : Backend.ofSettings {} {} {} = .ok (.memory {}, {}) := rfl
  have harmless : Faltering.Harmless fourthFails := by
    intro n failure planned keeper lawful
    unfold fourthFails at planned
    split at planned
    · cases planned
      exact lawful
    · cases planned
  exact ⟨chosen, harmless, lists_throughout chosen harmless batchFails, by decide +kernel⟩

end Store

end ShortLinks
