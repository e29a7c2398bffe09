import ShortLinks.Proofs.Run
import ShortLinks.Proofs.Store.Write

/-!
What a batch does to the links that stand in the table before it.

* `covered_after` — over a keeper in memory that never fails, whatever stands in the table stands
  in the index of the keeper.
* `older_link_stays_iff` — a batch then always succeeds, and an older link stays as it is unless it
  is withdrawn: an entry of the batch under its key bears its identity and is skipped for a link
  under another key.
* `older_links_stay_of_freshFor` — so a batch that generates its identities takes out no older link.

The correction compares identities to find what the batch itself put into the table. An entry that
comes with the identity of an older link under its key is taken for that link.
-/

namespace ShortLinks

/-- A link that stands in table and index stays in the table unless it is withdrawn. -/
theorem BatchCall.getElem?_settle_of_older (call : BatchCall) {table : LinkMap} {index : LinkIndex}
    (covered : Books.Covered (table, index)) {key : String} {link : Link}
    (older : table[key]? = some link) :
    (call.settle table index)[key]? = some link ↔
      ¬ Store.Withdrawn call.normal (call.skipped index) key link := by
  obtain ⟨sound, within⟩ := covered
  rw [call.getElem?_settle sound]
  refine and_iff_right ?_
  -- A named link is the one that stood there; over every other one the merge goes.
  split
  · exact call.filed_kept sound (within key link older)
  · exact call.merge_kept older

namespace Write

/-- The keeper in memory answers every batch with a report. -/
theorem exists_report (store : Store) (keeper : MemoryKeeper) (call : BatchCall) :
    ∃ report, (store.insertInOrder keeper call).answer = .ok report := by
  unfold Store.insertInOrder
  split
  · exact ⟨_, rfl⟩
  · exact ⟨_, rfl⟩

/-- Over the keeper in memory, what a write that fails leaves behind is nothing. -/
theorem residue_of_memory {state : Store × MemoryKeeper} {write : Write}
    (failed : ¬ write.Succeeds state) (books : Books) : write.residue books = books := by
  cases write with
  | batch call =>
      obtain ⟨report, ok⟩ := exists_report state.1 state.2 call
      refine absurd ?_ failed
      simp only [Succeeds, outcome, Store.Outcome.status, ok]
      rfl
  | link => rfl
  | user => rfl
  | deletion => rfl

theorem next_covered (state : Store × MemoryKeeper) (write : Write)
    (covered : (books state).Covered) : (books (write.next state)).Covered := by
  by_cases ok : write.Succeeds state
  · rw [books_next_of_ok ok]
    exact write.effect_covered covered
  · rw [books_next_of_error ok, residue_of_memory ok]
    exact covered

end Write

namespace Store

/-- The store that was opened over an empty keeper in memory, and the keeper, after some writes. -/
def afterWrites (writes : List Write) : Store × MemoryKeeper :=
  writes.foldl Write.next (ofKeeper {})

theorem covered_after (writes : List Write) : (Write.books (afterWrites writes)).Covered :=
  have start : (Write.books (ofKeeper ({} : MemoryKeeper))).Covered := Books.covered_empty
  foldl_of_step Write.next_covered start writes

/-- **An older link stays unless it is withdrawn**: after any writes over the keeper in memory,
every batch succeeds, and a link that stood in the table before it stands there afterwards, under
the same key and unchanged, unless an entry of the batch under its key bears its identity and is
skipped for a link under another key, and no later skipped entry names it again. -/
theorem older_link_stays_iff (writes : List Write) (call : BatchCall)
    {state : Store × MemoryKeeper} (reached : state = afterWrites writes) {key : String}
    {link : Link} (older : state.1.links[key]? = some link) :
    ∃ report store keeper, state.1.insertInOrder state.2 call = ⟨.ok report, store, keeper⟩ ∧
      (store.links[key]? = some link ↔ ¬ Withdrawn call.normal report.skipped key link) := by
  have covered := covered_after writes
  rw [← reached] at covered
  obtain ⟨report, ok⟩ := Write.exists_report state.1 state.2 call
  obtain ⟨rfl, links, -⟩ := insertInOrder_of_ok ok
  generalize state.1.insertInOrder state.2 call = outcome at ok links ⊢
  obtain ⟨answer, store, keeper⟩ := outcome
  dsimp only at ok links
  refine ⟨_, store, keeper, by rw [ok], ?_⟩
  rw [links]
  exact call.getElem?_settle_of_older covered older

/-- Two links to two addresses. -/
def twoLinks : List Write :=
  [.link "1" "a" ⟨"X", "", "u1", none, false⟩, .link "2" "b" ⟨"Y", "", "u2", none, false⟩]

/-- A batch whose entry has the key and the identity of one link and the address of the other. -/
def mixedBatch : BatchCall := .tagged "" [("a", ⟨"X", "", "u2", none, false⟩)]

theorem older_link_stays_iff_twoLinks :
    (afterWrites twoLinks).1.links["b"]? = some ⟨"Y", "b", "u2", none, false⟩ ∧
      ∃ report store keeper,
        (afterWrites twoLinks).1.insertInOrder (afterWrites twoLinks).2 mixedBatch
            = ⟨.ok report, store, keeper⟩ ∧
          (store.links["b"]? = some ⟨"Y", "b", "u2", none, false⟩ ↔
            ¬ Withdrawn mixedBatch.normal report.skipped "b" ⟨"Y", "b", "u2", none, false⟩) :=
  have older : (afterWrites twoLinks).1.links["b"]? = some ⟨"Y", "b", "u2", none, false⟩ := by
    decide +kernel
  ⟨older, older_link_stays_iff twoLinks mixedBatch rfl older⟩

/-- The batch succeeds and takes out the older link under its key. -/
theorem mixedBatch_evicts :
    (afterWrites twoLinks).1.links["a"]? = some ⟨"X", "a", "u1", none, false⟩ ∧
      ∃ store keeper,
        (afterWrites twoLinks).1.insertInOrder (afterWrites twoLinks).2 mixedBatch
            = ⟨.ok ⟨0, [("a", ⟨"Y", "b", "u2", none, false⟩)]⟩, store, keeper⟩ ∧
          store.links["a"]? = none := by
  refine ⟨?_, _, _, rfl, ?_⟩
  · decide +kernel
  · decide +kernel

/-- A batch whose entries come without identities takes out no older link. -/
theorem older_links_stay_of_freshFor (writes : List Write) {call : BatchCall}
    (isFresh : call.FreshFor (afterWrites writes).1.links) {key : String} {link : Link}
    (older : (afterWrites writes).1.links[key]? = some link) :
    ((afterWrites writes).1.insertInOrder (afterWrites writes).2 call).store.links[key]?
      = some link := by
  have covered := covered_after writes
  generalize afterWrites writes = state at isFresh older covered ⊢
  obtain ⟨report, ok⟩ := Write.exists_report state.1 state.2 call
  obtain ⟨-, links, -⟩ := insertInOrder_of_ok ok
  rw [links]
  exact (call.getElem?_settle_of_older covered older).mpr (isFresh.not_withdrawn older _)

end Store

end ShortLinks
