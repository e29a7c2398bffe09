import ShortLinks.Proofs.Store.Authority
import ShortLinks.Proofs.Store.OlderLinks

/-!
Tombstones in the table in memory.

* `keepsTombstones_effect_iff` — a write that succeeds leaves a tombstone under every key that had
  one exactly when it does not revive one (`Write.Revives`): either a link that is no tombstone
  comes in from the keeper under its key, or the tombstone is taken for an entry of the batch and
  withdrawn.
* `hasTombstone_residue` — a write that fails keeps them all.
* `tombstones_last_iff` — so whatever is once read as deleted is read as deleted ever after exactly
  when no attempt of the run revives a tombstone.
* `not_revives_of_covered` — none does while the index holds whatever the table holds and every
  batch generates its identities.
-/

namespace ShortLinks

open Store (named Withdrawn)

/-- A tombstone stands under this key. -/
def LinkMap.HasTombstone (links : LinkMap) (key : String) : Prop :=
  links.Shows (·.deleted = true) key

open LinkMap (HasTombstone)

/-! ### One write -/

namespace Write

/-- Does a write, if it succeeds, leave no tombstone under a key that has one? A single link does
when the record that comes in from the keeper is no tombstone. A batch does when a skipped entry
names a link under the key that is no tombstone, or when what stands under the key after the merge
is withdrawn: the named link, or the old one if there is none. -/
def Revives : Write → Books → Prop
  | .link fresh key record, (table, index) =>
      HasTombstone table (index.insert fresh key record).1.record.key ∧
        (index.insert fresh key record).1.record.deleted = false
  | .batch call, (table, index) =>
      ∃ (key : String) (old : Link), table[key]? = some old ∧ old.deleted = true ∧
        ((∃ skip ∈ call.skipped index, skip.2.key = key ∧
            (skip.2.deleted = false ∨ Withdrawn call.normal (call.skipped index) key skip.2)) ∨
          key ∉ named (call.skipped index) ∧ Withdrawn call.normal (call.skipped index) key old)
  | _, _ => False

end Write

namespace BatchCall

variable {call : BatchCall} {table : LinkMap} {index : LinkIndex} {key : String} {old : Link}

/-- Under a key that a skipped entry names, a tombstone stands after a batch exactly when the named
link is one and is not withdrawn. -/
theorem hasTombstone_settle_of_named (sound : index.Sound) {skip : String × Link}
    (mem : skip ∈ call.skipped index) :
    HasTombstone (call.settle table index) skip.2.key ↔
      skip.2.deleted = true ∧
        ¬ Withdrawn call.normal (call.skipped index) skip.2.key skip.2 := by
  have isNamed : skip.2.key ∈ named (call.skipped index) := List.mem_map_of_mem mem
  constructor
  · rintro ⟨link, found, deleted⟩
    obtain ⟨stands, stays⟩ := (call.getElem?_settle sound table _ _).mp found
    rw [if_pos isNamed, call.holder_stored sound skip mem] at stands
    obtain rfl := Option.some.inj stands
    exact ⟨deleted, stays⟩
  · rintro ⟨deleted, stays⟩
    exact ⟨skip.2, (getElem?_settle_holder sound mem).mpr stays, deleted⟩

/-- Under any other key the old link stays unless it is withdrawn. -/
theorem hasTombstone_settle_of_unnamed (sound : index.Sound)
    (unnamed : key ∉ named (call.skipped index)) (found : table[key]? = some old) :
    HasTombstone (call.settle table index) key ↔
      old.deleted = true ∧ ¬ Withdrawn call.normal (call.skipped index) key old := by
  have standing (link : Link) : (call.settle table index)[key]? = some link ↔
      old = link ∧ ¬ Withdrawn call.normal (call.skipped index) key link := by
    rw [call.getElem?_settle sound, if_neg unnamed, call.merge_kept found, Option.some.injEq]
  simp only [HasTombstone, LinkMap.Shows, standing]
  constructor
  · rintro ⟨_, ⟨rfl, stays⟩, deleted⟩
    exact ⟨deleted, stays⟩
  · rintro ⟨deleted, stays⟩
    exact ⟨old, ⟨rfl, stays⟩, deleted⟩

/-- A batch that succeeds keeps all tombstones exactly when it revives none. -/
theorem keepsTombstones_settle_iff (sound : index.Sound) :
    (∀ key, HasTombstone table key → HasTombstone (call.settle table index) key) ↔
      ¬ (Write.batch call).Revives (table, index) := by
  constructor
  · rintro kept ⟨key, old, found, deleted, ⟨skip, mem, rfl, why⟩ | ⟨unnamed, withdrawn⟩⟩
    · have after := kept _ ⟨old, found, deleted⟩
      obtain ⟨marked, stays⟩ := (hasTombstone_settle_of_named sound mem).mp after
      rcases why with unmarked | withdrawn
      · simp [marked] at unmarked
      · exact stays withdrawn
    · have after := kept key ⟨old, found, deleted⟩
      exact ((hasTombstone_settle_of_unnamed sound unnamed found).mp after).2 withdrawn
  · rintro unrevived key ⟨old, found, deleted⟩
    by_cases isNamed : key ∈ named (call.skipped index)
    · obtain ⟨skip, mem, rfl⟩ := List.mem_map.mp isNamed
      refine (hasTombstone_settle_of_named sound mem).mpr ⟨?_, fun withdrawn => ?_⟩
      · refine eq_true_of_ne_false fun unmarked => ?_
        exact unrevived ⟨_, old, found, deleted, .inl ⟨skip, mem, rfl, .inl unmarked⟩⟩
      · exact unrevived ⟨_, old, found, deleted, .inl ⟨skip, mem, rfl, .inr withdrawn⟩⟩
    · refine (hasTombstone_settle_of_unnamed sound isNamed found).mpr ⟨deleted, fun withdrawn => ?_⟩
      exact unrevived ⟨key, old, found, deleted, .inr ⟨isNamed, withdrawn⟩⟩

end BatchCall

namespace Write

/-- **A write that succeeds** keeps all tombstones exactly when it revives none. -/
theorem keepsTombstones_effect_iff {books : Books} (sound : books.2.Sound) (write : Write) :
    (∀ key, HasTombstone books.1 key → HasTombstone (write.effect books).1 key) ↔
      ¬ write.Revives books := by
  obtain ⟨table, index⟩ := books
  cases write with
  | link fresh key record =>
      simp only [effect, Revives]
      generalize (index.insert fresh key record).1.record = stored
      constructor
      · rintro kept ⟨present, unmarked⟩
        obtain ⟨link, found, deleted⟩ := kept stored.key present
        obtain rfl : stored = link := by simpa using found
        simp [unmarked] at deleted
      · rintro unrevived other ⟨old, found, deleted⟩
        by_cases same : stored.key = other
        · subst same
          refine ⟨stored, by simp, eq_true_of_ne_false fun unmarked => ?_⟩
          exact unrevived ⟨⟨old, found, deleted⟩, unmarked⟩
        · exact ⟨old, by simpa [Std.ExtTreeMap.getElem?_insert, same] using found, deleted⟩
  | user => exact iff_of_true (fun _ present => present) id
  | batch call => exact BatchCall.keepsTombstones_settle_iff sound
  | deletion requests =>
      exact iff_of_true (fun _ present => present.tombstone (fun _ _ => rfl) requests) id

/-- A write that fails keeps all tombstones. -/
theorem hasTombstone_residue {books : Books} (write : Write) {key : String}
    (present : HasTombstone books.1 key) : HasTombstone (write.residue books).1 key := by
  cases write with
  | batch call => exact present.imp fun _ => And.imp_left call.merge_kept
  | link => exact present
  | user => exact present
  | deletion => exact present

/-- Where the index holds whatever the table holds, only a batch whose entries come with identities
revives a tombstone. -/
theorem not_revives_of_covered {books : Books} (covered : books.Covered) {write : Write}
    (isFresh : ∀ call, write = .batch call → call.FreshFor books.1) : ¬ write.Revives books := by
  obtain ⟨table, index⟩ := books
  obtain ⟨sound, within⟩ := covered
  dsimp only at sound within isFresh
  cases write with
  | link fresh key record =>
      rintro ⟨⟨old, found, deleted⟩, unmarked⟩
      have present := within _ old found
      have step := sound.insertion (fun _ => fresh) (key, record)
      generalize index.insert fresh key record = answer at step found deleted unmarked present
      cases step with
      | refused stored inWay =>
          obtain rfl := Option.some.inj (present.symm.trans stored)
          simp [Inserted.record, deleted] at unmarked
      | stored free unled =>
          dsimp only [Inserted.record] at present
          simp [free] at present
  | user => exact id
  | batch call =>
      have isFresh := isFresh call rfl
      rintro ⟨key, old, found, deleted, ⟨skip, mem, rfl, why⟩ | ⟨-, withdrawn⟩⟩
      · -- The index holds the old link under the named key, so that is the link it names.
        have stored := call.filed_kept sound (within _ old found)
        obtain rfl := Option.some.inj (stored.symm.trans (call.holder_stored sound skip mem))
        rcases why with unmarked | withdrawn
        · simp [deleted] at unmarked
        · exact isFresh.not_withdrawn found _ withdrawn
      · exact isFresh.not_withdrawn found _ withdrawn
  | deletion => exact id

end Write

/-! ### Runs -/

namespace Store

/-- Is a link that is deleted read by this short link? -/
def ReadsTombstone (store : Store) (shortUrl : String) : Prop :=
  store.Reads (·.deleted = true) shortUrl

end Store

namespace Attempt

variable {σ : Type} [Keeper σ] [IndexedKeeper σ]

/-- Does an attempt succeed and revive a tombstone? -/
def Revives (state : Store × Unreliable σ) (attempt : Attempt) : Prop :=
  attempt.Succeeds state ∧ attempt.write.Revives (Write.books state)

theorem keepsTombstones_next_iff [SteadyKeeper σ] (state : Store × Unreliable σ)
    (attempt : Attempt) (orderly : (Write.books state).Orderly) :
    (∀ shortUrl, state.1.ReadsTombstone shortUrl →
        (attempt.next state).1.ReadsTombstone shortUrl) ↔ ¬ attempt.Revives state := by
  unfold Store.ReadsTombstone
  rw [Store.forall_reads_iff orderly.keyed]
  change (∀ key, HasTombstone (Write.books state).1 key →
    HasTombstone (Write.books (attempt.next state)).1 key) ↔ _
  by_cases ok : attempt.Succeeds state
  · rw [books_next_of_ok ok, Write.keepsTombstones_effect_iff orderly.sound]
    simp [Revives, ok]
  · rw [books_next_of_error ok]
    exact iff_of_true (fun _ => attempt.write.hasTombstone_residue) fun revives => ok revives.1

end Attempt

namespace Store

/-- **Tombstones last.** In a run of attempts on a keeper in memory that may be out of reach,
whatever is once read as deleted is read as deleted ever after exactly when no attempt revives a
tombstone. -/
theorem tombstones_last_iff (down : Bool) (attempts : List Attempt) :
    (∀ shortUrl, Lasting Attempt.next (fun state => state.1.ReadsTombstone shortUrl) (opened down)
        attempts) ↔
      Along Attempt.next (fun state attempt => ¬ attempt.Revives state) (opened down) attempts := by
  rw [lasting_iff_along]
  exact along_congr Attempt.keepsTombstones_next_iff
    (fun state attempt orderly _ => Attempt.next_orderly state attempt orderly)
    (orderly_opened down)

/-- Two links to two addresses, of which the first is deleted, and a batch whose entry has the key
and the identity of the first and the address of the second. -/
def buriedAttempts : List Attempt :=
  [⟨false, .link "1" "a" ⟨"X", "", "u1", some "ann", false⟩⟩,
    ⟨false, .link "2" "b" ⟨"Y", "", "u2", none, false⟩⟩, ⟨false, .deletion [⟨"ann", ["a"]⟩]⟩,
    ⟨false, .batch mixedBatch⟩]

/-- After the deletion the first link is read as deleted, and after the batch, which succeeds, it
is not read at all. -/
theorem buriedAttempts_revive :
    ((buriedAttempts.take 3).foldl Attempt.next (opened false)).1.getLink "a"
        = .ok ⟨"X", "a", "u1", some "ann", true⟩ ∧
      (buriedAttempts.foldl Attempt.next (opened false)).1.getLink "a"
        = .error (.noSuchLink "a") ∧
      ¬ ∀ shortUrl, Lasting Attempt.next (fun state => state.1.ReadsTombstone shortUrl)
        (opened false) buriedAttempts := by
  have before : ((buriedAttempts.take 3).foldl Attempt.next (opened false)).1.getLink "a"
      = .ok ⟨"X", "a", "u1", some "ann", true⟩ := getLink_eq_ok_iff.mpr (by decide +kernel)
  have after : (buriedAttempts.foldl Attempt.next (opened false)).1.getLink "a"
      = .error (.noSuchLink "a") := by rfl
  refine ⟨before, after, fun last => ?_⟩
  have later := ((last "a").2.2.2.1 ⟨_, before, rfl⟩).2
  obtain ⟨link, found, -⟩ := later
  rw [show Attempt.next _ _ = buriedAttempts.foldl Attempt.next (opened false) from rfl,
    after] at found
  cases found

end Store

end ShortLinks
