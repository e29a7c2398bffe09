import Mathlib.Data.List.Forall2
import ShortLinks.Database.Retry
import ShortLinks.Proofs.Database.Rows
import ShortLinks.Proofs.Deletion.Marking
import ShortLinks.Proofs.Run

/-!
Deletions in a database that fails at times.

* `Trial`, `updateBatchTrying` — a deletion whose transactions may fail. Each is tried as often as
  the policy allows; what fails for good ends the deletion, and what was committed stays. Where
  nothing fails this is the deletion of the keeper, `updateBatchTrying_committed`.
* `markParts_rows`, `markParts_of_ok` — the transactions that were committed are the first ones, and
  all of them if the answer is good.
* `PartlyDone` — the keeper after deletions that were cut short.
* `Marking`, `updateBatch_exact` — a deletion marks exactly the rows that are asked for, and one
  that is carried out after others were cut short ends as if those had never begun.
-/

namespace ShortLinks

/-- A run that ends well has called with success. -/
theorem RetryPolicy.of_runFrom_ok {α : Type} {outcome : Nat → Except DatabaseFailure α} {value : α}
    {left attempt : Nat} (ok : (runFrom outcome left attempt).result = .ok value) :
    ∃ tried < (runFrom outcome left attempt).calls, outcome tried = .ok value := by
  fun_induction runFrom outcome left attempt with
  | case1 left attempt found answered =>
      cases ok
      exact ⟨attempt, Nat.lt_succ_self _, answered⟩
  | case2 attempt failure answered kind left passing rest ih => exact ih ok
  | case3 left attempt failure answered final => cases ok

namespace Database

variable {rows : List LinkRow} {pairs done : List (String × String)}

/-- Marks that are asked for anyway make no difference. -/
theorem marked_comp_of_subset (part : done ⊆ pairs) :
    marked pairs ∘ marked done = marked pairs := by
  rw [← marked_append]
  funext r
  have asks : isAskedFor (done ++ pairs) r = isAskedFor pairs r := by
    unfold isAskedFor
    cases r.owner with
    | none => rfl
    | some owner =>
        dsimp only
        rw [Bool.eq_iff_iff, List.contains_iff_mem, List.contains_iff_mem, List.mem_append]
        exact or_iff_right_of_imp fun mem => part mem
  rw [marked, marked, asks]

theorem ids_map_marked (rows : List LinkRow) (pairs : List (String × String)) :
    (rows.map (marked pairs)).map (·.id) = rows.map (·.id) := by
  rw [List.map_map, show (·.id) ∘ marked pairs = (·.id) from funext fun _ => marked_id pairs]

end Database

namespace DatabaseKeeper

open Database (markRows marked)

/-! ### Transactions that may fail -/

/-- What becomes of one attempt at a transaction, which is done in whole or not at all. -/
inductive Trial where
  | committed
  /-- The answer is a failure. The transaction may be done in spite of it. -/
  | failed (failure : DatabaseFailure) (done : Bool)

namespace Trial

/-- What the caller is answered. -/
def answer : Trial → Except DatabaseFailure Unit
  | committed => .ok ()
  | failed failure _ => .error failure

/-- Is the transaction done? -/
def isDone : Trial → Bool
  | committed => true
  | failed _ done => done

/-- The rows after an attempt to mark what the pairs ask for. -/
def mark (pairs : List (String × String)) (rows : List LinkRow) (trial : Trial) : List LinkRow :=
  if trial.isDone then markRows rows pairs else rows

end Trial

/-- One transaction, tried as often as the policy allows: the last answer, and the rows after all
attempts. -/
def markTrying (p : RetryPolicy) (trials : Nat → Trial) (pairs : List (String × String))
    (rows : List LinkRow) : Except DatabaseFailure Unit × List LinkRow :=
  let run := p.run fun attempt => (trials attempt).answer
  (run.result, ((List.range run.calls).map trials).foldl (Trial.mark pairs) rows)

/-- Transactions one after the other, until one fails for good. -/
def markParts (p : RetryPolicy) (trials : Nat → Nat → Trial) :
    List (List (String × String)) → List LinkRow → Except DatabaseFailure Unit × List LinkRow
  | [], rows => (.ok (), rows)
  | part :: rest, rows =>
      match markTrying p (trials 0) part rows with
      | (.ok (), rows) => markParts p (fun n => trials (n + 1)) rest rows
      | (.error failure, rows) => (.error failure, rows)

/-- Sets tombstone marks, transaction by transaction, in a database that may fail: `trials n` are
the attempts at the transaction with the number `n`. -/
def updateBatchTrying (p : RetryPolicy) (trials : Nat → Nat → Trial)
    (requests : List DeletionRequest) : Call DatabaseKeeper Unit := fun k =>
  let pairs := keyPairs requests
  if pairs.isEmpty then (.ok (), k)
  else
    match k.linkRows with
    | .error failure => failed "设置删除标记失败" failure k
    | .ok rows =>
        match markParts p trials (parts transactionSize pairs) rows with
        | (.ok (), rows) => (.ok (), k.withLinks rows)
        | (.error failure, rows) => failed "设置删除标记失败" failure (k.withLinks rows)

variable {p : RetryPolicy} {rows : List LinkRow} {pairs : List (String × String)}

/-- Where no attempt fails, the deletion is that of the keeper. -/
theorem updateBatchTrying_committed (p : RetryPolicy) (requests : List DeletionRequest) :
    updateBatchTrying p (fun _ _ => .committed) requests = updateBatch requests := by
  have once (pairs : List (String × String)) (rows : List LinkRow) :
      markTrying p (fun _ => .committed) pairs rows = (.ok (), markRows rows pairs) := by
    simp [markTrying, RetryPolicy.run, RetryPolicy.runFrom, Trial.answer, Trial.mark, Trial.isDone]
  have all (lists : List (List (String × String))) (rows : List LinkRow) :
      markParts p (fun _ _ => .committed) lists rows = (.ok (), lists.foldl markRows rows) := by
    induction lists generalizing rows with
    | nil => rfl
    | cons part rest ih => rw [markParts, once, List.foldl_cons, ← ih]
  funext k
  simp only [updateBatchTrying, all]
  rfl

/-! ### What was committed -/

/-- Attempts at one transaction mark what is asked for, or nothing if none was done. -/
theorem foldl_mark (ids : (rows.map (·.id)).Nodup) (tried : List Trial) :
    tried.foldl (Trial.mark pairs) rows
      = if tried.any Trial.isDone then rows.map (marked pairs) else rows := by
  induction tried generalizing rows with
  | nil => rfl
  | cons trial rest ih =>
      rw [List.foldl_cons, Trial.mark, List.any_cons]
      cases trial.isDone with
      | false => simpa using ih ids
      | true =>
          rw [if_pos rfl, Database.markRows_of_ids ids, ih (by rwa [Database.ids_map_marked]),
            List.map_map, Database.marked_comp_of_subset (List.Subset.refl _), ite_self,
            Bool.true_or, if_pos rfl]

/-- A transaction that is answered well is done. -/
theorem markTrying_of_ok {trials : Nat → Trial} (ids : (rows.map (·.id)).Nodup)
    (ok : (markTrying p trials pairs rows).1 = .ok ()) :
    (markTrying p trials pairs rows).2 = rows.map (marked pairs) := by
  obtain ⟨attempt, among, answered⟩ := RetryPolicy.of_runFrom_ok ok
  have done : (trials attempt).isDone = true := by
    cases trial : trials attempt with
    | committed => rfl
    | failed failure done =>
        rw [trial] at answered
        cases answered
  rw [markTrying, foldl_mark ids, if_pos]
  exact List.any_eq_true.mpr
    ⟨_, List.mem_map_of_mem (List.mem_range.mpr among), done⟩

/-- A transaction is done in whole or not at all. -/
theorem markTrying_rows (p : RetryPolicy) (trials : Nat → Trial) (pairs : List (String × String))
    (ids : (rows.map (·.id)).Nodup) :
    (markTrying p trials pairs rows).2 = rows.map (marked pairs) ∨
      (markTrying p trials pairs rows).2 = rows := by
  rw [markTrying, foldl_mark ids]
  split
  · exact .inl rfl
  · exact .inr rfl

/-- Transactions that are answered well are all done. -/
theorem markParts_of_ok {trials : Nat → Nat → Trial} {lists : List (List (String × String))}
    (ids : (rows.map (·.id)).Nodup) (ok : (markParts p trials lists rows).1 = .ok ()) :
    (markParts p trials lists rows).2 = rows.map (marked lists.flatten) := by
  induction lists generalizing trials rows with
  | nil => simp [markParts, Database.marked_nil]
  | cons part rest ih =>
      rw [markParts] at ok ⊢
      cases tried : markTrying p (trials 0) part rows with
      | mk answer after =>
          cases answer with
          | error failure =>
              rw [tried] at ok
              cases ok
          | ok =>
              obtain rfl : after = rows.map (marked part) := by
                simpa [tried] using markTrying_of_ok ids (congrArg Prod.fst tried)
              rw [tried] at ok
              rw [ih (by rwa [Database.ids_map_marked]) ok, List.map_map, List.flatten_cons,
                Database.marked_append]

/-- Whatever fails, the transactions that are done are the first ones. -/
theorem markParts_rows (p : RetryPolicy) (trials : Nat → Nat → Trial)
    (lists : List (List (String × String))) (ids : (rows.map (·.id)).Nodup) :
    ∃ n, (markParts p trials lists rows).2 = rows.map (marked (lists.take n).flatten) := by
  induction lists generalizing trials rows with
  | nil => exact ⟨0, by simp [markParts, Database.marked_nil]⟩
  | cons part rest ih =>
      rw [markParts]
      cases tried : markTrying p (trials 0) part rows with
      | mk answer after =>
          cases answer with
          | ok =>
              obtain rfl : after = rows.map (marked part) := by
                simpa [tried] using markTrying_of_ok ids (congrArg Prod.fst tried)
              have idsAfter : ((rows.map (marked part)).map (·.id)).Nodup := by
                rwa [Database.ids_map_marked]
              obtain ⟨n, same⟩ := ih (fun n => trials (n + 1)) idsAfter
              refine ⟨n + 1, ?_⟩
              rw [same, List.map_map, List.take_succ_cons, List.flatten_cons,
                Database.marked_append]
          | error failure =>
              have either := markTrying_rows p (trials 0) part ids
              rw [tried] at either
              rcases either with rfl | rfl
              · exact ⟨1, by simp⟩
              · exact ⟨0, by simp [Database.marked_nil]⟩

/-! ### Deletions -/

variable {k stopped : DatabaseKeeper} {requests : List DeletionRequest}
  {trials : Nat → Nat → Trial}

theorem Holds.withLinks (holds : k.Holds rows) (other : List LinkRow) :
    (k.withLinks other).Holds other :=
  ⟨holds.isOpen, rfl⟩

/-- A deletion that is answered well has marked what its pairs ask for. -/
theorem updateBatchTrying_of_ok (holds : k.Holds rows) (ids : (rows.map (·.id)).Nodup)
    (ok : (updateBatchTrying p trials requests k).1 = .ok ()) :
    updateBatchTrying p trials requests k
      = (.ok (), k.withLinks (rows.map (marked (keyPairs requests)))) := by
  unfold updateBatchTrying at ok ⊢
  dsimp only at ok ⊢
  split
  · next blank =>
      rw [List.isEmpty_iff.mp blank, Database.marked_nil, List.map_id, holds.withLinks_self]
  · next asks =>
      rw [if_neg asks, holds.linkRows] at ok
      rw [holds.linkRows]
      dsimp only at ok ⊢
      cases tried : markParts p trials (parts transactionSize (keyPairs requests)) rows with
      | mk answer after =>
          rw [tried] at ok
          cases answer with
          | error failure => cases ok
          | ok =>
              have all := markParts_of_ok ids (congrArg Prod.fst tried)
              rw [tried, flatten_parts] at all
              exact congrArg (fun rows => (_, k.withLinks rows)) all

/-- However a deletion ends, its first transactions are done. -/
theorem updateBatchTrying_rows (p : RetryPolicy) (trials : Nat → Nat → Trial)
    (requests : List DeletionRequest) (holds : k.Holds rows) (ids : (rows.map (·.id)).Nodup) :
    ∃ n, (updateBatchTrying p trials requests k).2
      = k.withLinks
          (rows.map (marked ((parts transactionSize (keyPairs requests)).take n).flatten)) := by
  unfold updateBatchTrying
  dsimp only
  split
  · next blank =>
      exact ⟨0, by simp [Database.marked_nil, holds.withLinks_self]⟩
  · obtain ⟨n, same⟩ := markParts_rows p trials (parts transactionSize (keyPairs requests)) ids
    refine ⟨n, ?_⟩
    rw [holds.linkRows, ← same]
    dsimp only
    split
    · next tried => rw [tried]
    · next tried =>
        rw [tried]
        rfl

/-- A keeper after deletions of these requests that were cut short: some of the pairs are dealt
with. -/
def PartlyDone (k : DatabaseKeeper) (rows : List LinkRow) (requests : List DeletionRequest)
    (stopped : DatabaseKeeper) : Prop :=
  ∃ done, done ⊆ keyPairs requests ∧ stopped = k.withLinks (rows.map (marked done))

/-- The keeper after one more deletion, however it ends. -/
def afterTrying (p : RetryPolicy) (requests : List DeletionRequest) (k : DatabaseKeeper)
    (trials : Nat → Nat → Trial) : DatabaseKeeper :=
  (updateBatchTrying p trials requests k).2

theorem PartlyDone.next (holds : k.Holds rows) (ids : (rows.map (·.id)).Nodup)
    (partly : PartlyDone k rows requests stopped) :
    PartlyDone k rows requests (afterTrying p requests stopped trials) := by
  obtain ⟨done, part, rfl⟩ := partly
  obtain ⟨n, same⟩ := updateBatchTrying_rows p trials requests
    (holds.withLinks (rows.map (marked done))) (by rwa [Database.ids_map_marked])
  refine ⟨done ++ ((parts transactionSize (keyPairs requests)).take n).flatten, ?_, ?_⟩
  · refine List.append_subset.mpr ⟨part, fun pair mem => ?_⟩
    rw [← flatten_parts transactionSize (keyPairs requests)]
    obtain ⟨list, among, mem⟩ := List.mem_flatten.mp mem
    exact List.mem_flatten.mpr ⟨list, List.mem_of_mem_take among, mem⟩
  · rw [afterTrying, same, List.map_map, ← Database.marked_append]
    rfl

/-- Carried out in full, the deletion ends as if nothing had been done before. -/
theorem PartlyDone.finish (partly : PartlyDone k rows requests stopped) (holds : k.Holds rows)
    (ids : (rows.map (·.id)).Nodup)
    (ok : (updateBatchTrying p trials requests stopped).1 = .ok ()) :
    updateBatchTrying p trials requests stopped
      = (.ok (), k.withLinks (rows.map (marked (keyPairs requests)))) := by
  obtain ⟨done, part, rfl⟩ := partly
  rw [updateBatchTrying_of_ok (holds.withLinks _) (by rwa [Database.ids_map_marked]) ok,
    List.map_map, Database.marked_comp_of_subset part]
  rfl

/-- A row before and after a deletion: it differs in its mark alone, which is set if it was set
before or if a request of the owner asks for the key of the row. -/
structure Marking (requests : List DeletionRequest) (row now : LinkRow) : Prop where
  same : now = { row with deleted := now.deleted }
  deleted_iff : now.deleted = true ↔
    row.deleted = true ∨ AsksToDelete requests row.owner row.key

theorem isAskedFor_keyPairs_iff {row : LinkRow} :
    Database.isAskedFor (keyPairs requests) row = true ↔
      AsksToDelete requests row.owner row.key := by
  rw [asksToDelete_iff, Database.isAskedFor]
  cases row.owner with
  | none => simp
  | some owner =>
      rw [keyPairs, List.contains_iff_mem, List.mem_map]
      simp only [Prod.mk.injEq, Option.some.injEq, eq_comm (a := owner), eq_comm (a := row.key)]

theorem marking_marked (requests : List DeletionRequest) (row : LinkRow) :
    Marking requests row (marked (keyPairs requests) row) := by
  unfold marked
  split
  · next asked => exact ⟨rfl, iff_of_true rfl (.inr (isAskedFor_keyPairs_iff.mp asked))⟩
  · next unasked =>
      exact ⟨rfl, (or_iff_left fun asks => unasked (isAskedFor_keyPairs_iff.mpr asks)).symm⟩

/-- **A deletion marks exactly the rows that are asked for**, in however many transactions, and
leaves every row where it stands; the identities of the rows are distinct. If deletions of the same
requests were cut short before, in a database that may fail at any attempt, it ends as if they had
never begun; so does one that meets failures itself, as long as it is answered well. -/
theorem updateBatch_exact (holds : k.Holds rows) (ids : (rows.map (·.id)).Nodup)
    (requests : List DeletionRequest) :
    (∃ after, updateBatch requests k = (.ok (), k.withLinks after) ∧
      List.Forall₂ (Marking requests) rows after) ∧
    ∀ (p : RetryPolicy) (runs : List (Nat → Nat → Trial)),
      updateBatch requests (runs.foldl (afterTrying p requests) k) = updateBatch requests k ∧
      ∀ trials,
        (updateBatchTrying p trials requests (runs.foldl (afterTrying p requests) k)).1 = .ok () →
        updateBatchTrying p trials requests (runs.foldl (afterTrying p requests) k)
          = updateBatch requests k := by
  have whole := updateBatch_eq holds ids requests
  refine ⟨⟨_, whole, ?_⟩, fun p runs => ?_⟩
  · rw [List.forall₂_map_right_iff, List.forall₂_same]
    exact fun row _ => marking_marked requests row
  · have start : PartlyDone k rows requests k :=
      ⟨[], List.nil_subset _, by rw [Database.marked_nil, List.map_id, holds.withLinks_self]⟩
    have partly : PartlyDone k rows requests (runs.foldl (afterTrying p requests) k) :=
      foldl_of_step (fun stopped trials partly => partly.next holds ids) start runs
    refine ⟨?_, fun trials ok => (partly.finish holds ids ok).trans whole.symm⟩
    obtain ⟨done, part, stands⟩ := partly
    have again := (holds.withLinks (rows.map (marked done)))
    rw [← stands] at again
    rw [updateBatch_eq again (by rwa [Database.ids_map_marked]), whole, stands, List.map_map,
      Database.marked_comp_of_subset part]
    rfl

/-- A database with one row. -/
def oneRow : DatabaseKeeper where
  backend := "sqlite"
  database := { links := some [⟨"1", "a", "u", some "ann", false⟩] }

/-- A deletion that is committed without an answer, and then one that is refused. -/
def cutShort : List (Nat → Nat → Trial) :=
  [fun _ _ => .failed .unpackInsertId true, fun _ _ => .failed .acquireClosed false]

/-- A request for the row. -/
def forOneRow : List DeletionRequest := [⟨"ann", ["a"]⟩]

theorem updateBatch_exact_oneRow :
    oneRow.Holds [⟨"1", "a", "u", some "ann", false⟩] ∧
      (([⟨"1", "a", "u", some "ann", false⟩] : List LinkRow).map (·.id)).Nodup ∧
      (cutShort.all fun trials => !(updateBatchTrying {} trials forOneRow oneRow).1.isOk) = true ∧
      updateBatch forOneRow (cutShort.foldl (afterTrying {} forOneRow) oneRow)
        = updateBatch forOneRow oneRow := by
  have holds : oneRow.Holds [⟨"1", "a", "u", some "ann", false⟩] := ⟨rfl, rfl⟩
  have ids : (([⟨"1", "a", "u", some "ann", false⟩] : List LinkRow).map (·.id)).Nodup := by decide
  exact ⟨holds, ids, by decide +kernel, ((updateBatch_exact holds ids forOneRow).2 {} cutShort).1⟩

end DatabaseKeeper

end ShortLinks
