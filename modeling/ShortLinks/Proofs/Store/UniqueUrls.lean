import ShortLinks.Proofs.Run
import ShortLinks.Proofs.Store.Write

/-!
Links to one address in the table in memory.

* `uniqueUrls_effect_iff` — a write that succeeds keeps addresses unique in the table exactly when
  it does not double one (`Write.Doubles`): the link that comes in from the keeper leads where an
  older link under another key leads, and no skipped entry corrects that key.
* `uniqueUrls_residue` — a write that fails always keeps them unique.
* `uniqueUrls_throughout_iff` — so no two entries of the table ever lead to one address exactly
  when no step of the run doubles an address. In the index of the keeper this never happens.

An address is never doubled while the index holds whatever the table holds
(`not_doubles_of_covered`). That ends when a batch fails: its entries stay in the table, and the
keeper, which knows nothing of them, may later store their addresses under other keys.
-/

namespace ShortLinks

open Store (named Withdrawn)

namespace Write

/-- Does a write, if it succeeds, put a link into the table beside an older one to its address? A
single link does when the older one stands under another key. A batch does with a link that a
skipped entry names, when no skipped entry names the key of the older one and neither of the two is
withdrawn. -/
def Doubles : Write → Books → Prop
  | .link fresh key record, (table, index) =>
      ∃ (other : String) (old : Link), table[other]? = some old ∧
        old.originalUrl = (index.insert fresh key record).1.record.originalUrl ∧
        other ≠ (index.insert fresh key record).1.record.key
  | .batch call, (table, index) =>
      ∃ skip ∈ call.skipped index, ∃ (other : String) (old : Link), table[other]? = some old ∧
        old.originalUrl = skip.2.originalUrl ∧ other ∉ named (call.skipped index) ∧
        ¬ Withdrawn call.normal (call.skipped index) skip.2.key skip.2 ∧
        ¬ Withdrawn call.normal (call.skipped index) other old
  | _, _ => False

end Write

namespace BatchCall

variable {call : BatchCall} {table : LinkMap} {index : LinkIndex} {key other : String}
  {link twin : Link}

/-- A link of the corrected table under a named key and one to the same address under another key
that is not named: the second is older, and the batch doubles its address. -/
theorem doubles_of_named (orderly : Books.Orderly (table, index))
    (found : (call.settle table index)[key]? = some link)
    (foundTwin : (call.settle table index)[other]? = some twin)
    (same : link.originalUrl = twin.originalUrl) (isNamed : key ∈ named (call.skipped index))
    (unnamed : other ∉ named (call.skipped index)) :
    (Write.batch call).Doubles (table, index) := by
  obtain ⟨-, sound, unique⟩ := orderly
  obtain ⟨stands, stays⟩ := (call.getElem?_settle sound table key link).mp found
  obtain ⟨-, staysTwin⟩ := (call.getElem?_settle sound table other twin).mp foundTwin
  rw [if_pos isNamed] at stands
  obtain ⟨skip, mem, rfl⟩ := List.mem_map.mp isNamed
  obtain rfl := Option.some.inj ((call.holder_stored sound skip mem).symm.trans stands)
  rcases call.of_getElem?_settle sound foundTwin with stored | ⟨old, -⟩
  · have uniqueAfter := call.filed_uniqueUrls sound unique
    exact absurd (uniqueAfter _ _ _ _ stands stored same ▸ isNamed) unnamed
  · exact ⟨skip, mem, other, twin, old, same.symm, unnamed, stays, staysTwin⟩

/-- A batch that succeeds keeps addresses unique exactly when it doubles none. -/
theorem uniqueUrls_settle_iff (orderly : Books.Orderly (table, index))
    (unique : LinkMap.UniqueUrls table) :
    LinkMap.UniqueUrls (call.settle table index) ↔
      ¬ (Write.batch call).Doubles (table, index) := by
  obtain ⟨keyed, sound, uniqueIndex⟩ := orderly
  constructor
  · rintro uniqueAfter ⟨skip, mem, other, old, present, same, unnamed, stays, staysOld⟩
    have isNamed : skip.2.key ∈ named (call.skipped index) := List.mem_map_of_mem mem
    have found : (call.settle table index)[skip.2.key]? = some skip.2 := by
      refine (call.getElem?_settle sound table _ _).mpr ⟨?_, stays⟩
      rw [if_pos isNamed]
      exact call.holder_stored sound skip mem
    have foundOld : (call.settle table index)[other]? = some old := by
      refine (call.getElem?_settle sound table _ _).mpr ⟨?_, staysOld⟩
      rw [if_neg unnamed]
      exact call.merge_kept present
    exact unnamed (uniqueAfter _ _ _ _ foundOld found same ▸ isNamed)
  · intro undoubled key other link twin found foundTwin same
    obtain ⟨stands, -⟩ := (call.getElem?_settle sound table key link).mp found
    obtain ⟨standsTwin, -⟩ := (call.getElem?_settle sound table other twin).mp foundTwin
    by_cases isNamed : key ∈ named (call.skipped index)
    · by_cases alsoNamed : other ∈ named (call.skipped index)
      · -- Both are links of the index.
        rw [if_pos isNamed] at stands
        rw [if_pos alsoNamed] at standsTwin
        exact call.filed_uniqueUrls sound uniqueIndex key other link twin stands standsTwin same
      · exact absurd (doubles_of_named ⟨keyed, sound, uniqueIndex⟩ found foundTwin same isNamed
          alsoNamed) undoubled
    · by_cases alsoNamed : other ∈ named (call.skipped index)
      · exact absurd (doubles_of_named ⟨keyed, sound, uniqueIndex⟩ foundTwin found same.symm
          alsoNamed isNamed) undoubled
      · -- Both are links of the merged table.
        rw [if_neg isNamed] at stands
        rw [if_neg alsoNamed] at standsTwin
        exact call.merge_uniqueUrls unique key other link twin stands standsTwin same

end BatchCall

/-! ### Every write -/

namespace Write

/-- **A write that succeeds** keeps addresses unique exactly when it doubles none. -/
theorem uniqueUrls_effect_iff {books : Books} (orderly : books.Orderly)
    (unique : LinkMap.UniqueUrls books.1) (write : Write) :
    LinkMap.UniqueUrls (write.effect books).1 ↔ ¬ write.Doubles books := by
  cases write with
  | link fresh key record =>
      simp only [effect, Doubles, unique.insert_iff]
      constructor
      · rintro alone ⟨other, old, present, same, elsewhere⟩
        exact elsewhere (alone other old present same)
      · intro undoubled other old present same
        refine Classical.byContradiction fun elsewhere => ?_
        exact undoubled ⟨other, old, present, same, elsewhere⟩
  | user => exact iff_of_true unique id
  | batch call => exact BatchCall.uniqueUrls_settle_iff orderly unique
  | deletion requests => exact iff_of_true (unique.tombstone requests) id

/-- Where the index holds whatever the table holds, no write doubles an address. -/
theorem not_doubles_of_covered {books : Books} (orderly : books.Orderly) (covered : books.Covered)
    (write : Write) : ¬ write.Doubles books := by
  have unique : LinkMap.UniqueUrls books.1 := orderly.unique.of_within covered.within
  refine (uniqueUrls_effect_iff orderly unique write).mp ?_
  exact (write.effect_orderly orderly).unique.of_within (write.effect_covered covered).within

/-- A write that fails keeps addresses unique. -/
theorem uniqueUrls_residue {books : Books} (unique : LinkMap.UniqueUrls books.1) (write : Write) :
    LinkMap.UniqueUrls (write.residue books).1 := by
  cases write with
  | batch call => exact call.merge_uniqueUrls unique
  | link => exact unique
  | user => exact unique
  | deletion => exact unique

end Write

/-! ### Runs -/

namespace Attempt

/-- Does an attempt succeed and double an address? -/
def Doubles {σ : Type} [Keeper σ] [IndexedKeeper σ] (state : Store × Unreliable σ)
    (attempt : Attempt) : Prop :=
  attempt.Succeeds state ∧ attempt.write.Doubles (Write.books state)

theorem uniqueUrls_next_iff {σ : Type} [Keeper σ] [IndexedKeeper σ] [SteadyKeeper σ]
    (state : Store × Unreliable σ) (attempt : Attempt) (orderly : (Write.books state).Orderly)
    (unique : LinkMap.UniqueUrls state.1.links) :
    LinkMap.UniqueUrls (attempt.next state).1.links ↔ ¬ attempt.Doubles state := by
  change LinkMap.UniqueUrls (Write.books (attempt.next state)).1 ↔ _
  by_cases ok : attempt.Succeeds state
  · rw [books_next_of_ok ok, Write.uniqueUrls_effect_iff orderly unique]
    simp [Doubles, ok]
  · rw [books_next_of_error ok]
    exact iff_of_true (Write.uniqueUrls_residue unique attempt.write) fun doubles => ok doubles.1

end Attempt

namespace Store

/-- The store that was opened over an empty keeper in memory, which may have been out of reach. -/
def opened (down : Bool) : Store × Unreliable MemoryKeeper := ofKeeper ⟨{}, down⟩

theorem books_opened (down : Bool) : Write.books (opened down) = (∅, {}) := by
  cases down <;> rfl

theorem orderly_opened (down : Bool) : (Write.books (opened down)).Orderly := by
  rw [books_opened]
  exact ⟨LinkMap.keyed_empty, LinkIndex.sound_empty, LinkMap.uniqueUrls_empty⟩

/-- **One entry per address.** In a run of attempts on a keeper in memory that may be out of reach,
no two entries of the table ever lead to one address exactly when no attempt doubles one. -/
theorem uniqueUrls_throughout_iff (down : Bool) (attempts : List Attempt) :
    Throughout Attempt.next (fun state => LinkMap.UniqueUrls state.1.links) (opened down) attempts ↔
      Along Attempt.next (fun state attempt => ¬ attempt.Doubles state) (opened down) attempts := by
  have unique : LinkMap.UniqueUrls (opened down).1.links := by
    change LinkMap.UniqueUrls (Write.books (opened down)).1
    rw [books_opened]
    exact LinkMap.uniqueUrls_empty
  exact throughout_iff_along Attempt.next_orderly Attempt.uniqueUrls_next_iff
    (orderly_opened down) unique

/-- A batch that fails, and then a link to its address under another key. -/
def staleAttempts : List Attempt :=
  [⟨true, .batch (.tagged "" [("a", ⟨"", "", "u", none, false⟩)])⟩,
    ⟨false, .link "1" "b" ⟨"", "", "u", none, false⟩⟩]

/-- Both stand in the table afterwards. -/
theorem staleAttempts_double :
    (staleAttempts.foldl Attempt.next (opened false)).1.links["a"]?
        = some ⟨"#a", "a", "u", none, false⟩ ∧
      (staleAttempts.foldl Attempt.next (opened false)).1.links["b"]?
        = some ⟨"1", "b", "u", none, false⟩ ∧
      ¬ LinkMap.UniqueUrls (staleAttempts.foldl Attempt.next (opened false)).1.links := by
  have first : (staleAttempts.foldl Attempt.next (opened false)).1.links["a"]?
      = some ⟨"#a", "a", "u", none, false⟩ := by decide +kernel
  have second : (staleAttempts.foldl Attempt.next (opened false)).1.links["b"]?
      = some ⟨"1", "b", "u", none, false⟩ := by decide +kernel
  refine ⟨first, second, fun unique => ?_⟩
  exact absurd (unique "a" "b" _ _ first second rfl) (by decide)

end Store

end ShortLinks
