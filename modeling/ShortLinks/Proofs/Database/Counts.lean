import ShortLinks.Proofs.Database.Interruption
import ShortLinks.Proofs.Keeper.Interchange

/-!
The numbers of rows that a keeper remembers.

* `Remembers`, `Recalls` — a remembered number is the number of rows. What adds a row forgets the
  numbers, and what sets marks adds none, `length_markParts`.
* `Recalls.perform`, `Recalls.updateBatchTrying`, `Recalls.afterwards` — no call makes a remembered
  number wrong, whether it is carried out, refused or cut short.
* `counts_never_stale` — so a count that is answered tells the number of rows, at any time.
-/

namespace ShortLinks

namespace Database

theorem length_markRows (rows : List LinkRow) (pairs : List (String × String)) :
    (markRows rows pairs).length = rows.length :=
  List.length_map _

end Database

namespace DatabaseKeeper

open Database (markRows length_markRows)

variable {k : DatabaseKeeper} {rows : List LinkRow}

/-! ### Marks add no rows -/

theorem Trial.length_mark (pairs : List (String × String)) (rows : List LinkRow) (trial : Trial) :
    (trial.mark pairs rows).length = rows.length := by
  unfold Trial.mark
  split
  · exact length_markRows rows pairs
  · rfl

theorem length_markTrying (p : RetryPolicy) (trials : Nat → Trial) (pairs : List (String × String))
    (rows : List LinkRow) : (markTrying p trials pairs rows).2.length = rows.length := by
  have kept (after : List LinkRow) (trial : Trial) (same : after.length = rows.length) :
      (trial.mark pairs after).length = rows.length :=
    (trial.length_mark pairs after).trans same
  exact foldl_of_step kept rfl _

/-- However many transactions are done, there are as many rows as before. -/
theorem length_markParts (p : RetryPolicy) (trials : Nat → Nat → Trial)
    (lists : List (List (String × String))) (rows : List LinkRow) :
    (markParts p trials lists rows).2.length = rows.length := by
  induction lists generalizing trials rows with
  | nil => rfl
  | cons pairs rest ih =>
      have first := length_markTrying p (trials 0) pairs rows
      rw [markParts]
      split
      · next tried =>
          rw [tried] at first
          rw [ih, first]
      · next tried =>
          rw [tried] at first
          exact first

/-! ### What is remembered -/

/-- If a number is remembered for a table, it is the number of its rows. -/
def Remembers {α : Type} (count : Option Nat) (table : Option (List α)) : Prop :=
  ∀ n, count = some n → table.map List.length = some n

theorem remembers_none {α : Type} (table : Option (List α)) : Remembers none table := nofun

/-- Both remembered numbers are right. -/
structure Recalls (k : DatabaseKeeper) : Prop where
  links : Remembers k.linkCount k.database.links
  users : Remembers k.userCount k.database.users

/-- What stores a record forgets the numbers of both tables. -/
theorem recalls_forgetCounts (k : DatabaseKeeper) : k.forgetCounts.Recalls :=
  ⟨remembers_none _, remembers_none _⟩

theorem of_tableOf {α : Type} {name : String} {table : Option (List α)} {rows : List α}
    (read : k.tableOf name table = .ok rows) : table = some rows := by
  unfold tableOf at read
  grind

theorem tableOf_of_isOpen {α : Type} {name : String} {table : Option (List α)} {rows : List α}
    (isOpen : k.isOpen = true) (here : table = some rows) : k.tableOf name table = .ok rows := by
  unfold tableOf
  rw [if_pos isOpen, here]

theorem Recalls.withLinks {more : List LinkRow} (recalls : k.Recalls)
    (read : k.linkRows = .ok rows) (same : more.length = rows.length) :
    (k.withLinks more).Recalls := by
  refine ⟨fun n remembered => ?_, recalls.users⟩
  have right := recalls.links n remembered
  rw [of_tableOf read] at right
  exact (congrArg some same).trans right

/-! ### What a call leaves remembered -/

namespace Recalls

theorem save (recalls : k.Recalls) (fresh key : String) (link : Link) :
    (save fresh key link k).2.Recalls := by
  unfold DatabaseKeeper.save
  dsimp only
  split
  · exact recalls
  split
  · exact recalls_forgetCounts _
  split
  · exact recalls
  · exact recalls

theorem saveUser (recalls : k.Recalls) (fresh email : String) (user : User) :
    (saveUser fresh email user k).2.Recalls := by
  unfold DatabaseKeeper.saveUser
  dsimp only
  split
  · exact recalls
  split
  · exact recalls_forgetCounts _
  split
  · split
    · exact recalls
    · exact recalls
  · exact recalls

theorem saveBatch (recalls : k.Recalls) (fresh : String → String) (batch : LinkMap) :
    (saveBatch fresh batch k).2.Recalls := by
  unfold DatabaseKeeper.saveBatch
  dsimp only
  split
  · exact recalls
  split
  · exact recalls
  split
  · exact recalls
  split
  · exact recalls_forgetCounts _
  · exact recalls

/-- A deletion forgets nothing, and need not. -/
theorem updateBatchTrying (recalls : k.Recalls) (p : RetryPolicy) (trials : Nat → Nat → Trial)
    (requests : List DeletionRequest) : (updateBatchTrying p trials requests k).2.Recalls := by
  unfold DatabaseKeeper.updateBatchTrying
  dsimp only
  split
  · exact recalls
  split
  · exact recalls
  · next rows read =>
      have length := length_markParts p trials (parts transactionSize (keyPairs requests)) rows
      split
      · next tried =>
          rw [tried] at length
          exact recalls.withLinks read length
      · next tried =>
          rw [tried] at length
          exact recalls.withLinks read length

theorem updateBatch (recalls : k.Recalls) (requests : List DeletionRequest) :
    (updateBatch requests k).2.Recalls := by
  rw [← updateBatchTrying_committed {}]
  exact recalls.updateBatchTrying {} _ requests

/-- What a count remembers is the number of rows that it has just read. -/
theorem countLinks (recalls : k.Recalls) : (countLinks k).2.Recalls := by
  unfold DatabaseKeeper.countLinks
  split
  · exact recalls
  split
  · next read =>
      refine ⟨fun n counted => ?_, recalls.users⟩
      rw [of_tableOf read]
      exact counted
  · exact recalls

theorem countUsers (recalls : k.Recalls) : (countUsers k).2.Recalls := by
  unfold DatabaseKeeper.countUsers
  split
  · exact recalls
  split
  · next read =>
      refine ⟨recalls.links, fun n counted => ?_⟩
      rw [of_tableOf read]
      exact counted
  · exact recalls

theorem load (recalls : k.Recalls) : (load k).2.Recalls := by
  unfold DatabaseKeeper.load
  split
  · exact recalls
  · exact recalls

theorem loadUsers (recalls : k.Recalls) : (loadUsers k).2.Recalls := by
  unfold DatabaseKeeper.loadUsers
  split
  · exact recalls
  · exact recalls

theorem perform (recalls : k.Recalls) (call : KeeperCall) : (call.perform k).2.Recalls := by
  cases call with
  | save fresh key link => exact recalls.save fresh key link
  | saveUser fresh email user => exact recalls.saveUser fresh email user
  | saveBatch fresh batch => exact recalls.saveBatch fresh batch
  | updateBatch requests => exact recalls.updateBatch requests
  | load => exact recalls.load
  | loadUsers => exact recalls.loadUsers
  | countLinks => exact recalls.countLinks
  | countUsers => exact recalls.countUsers

end Recalls

/-! ### Sequences of calls -/

/-- The keeper while its database can be reached, or while it cannot. -/
def within (k : DatabaseKeeper) (reached : Bool) : DatabaseKeeper :=
  { k with isOpen := k.isOpen && reached }

/-- What happens to a keeper whose database nobody else writes to. -/
inductive Happening where
  | call (call : KeeperCall)
  /-- A call for which the database cannot be reached: what it asks for is not done. -/
  | refused (call : KeeperCall)
  /-- A deletion whose transactions may fail, some of them for good. -/
  | deletion (p : RetryPolicy) (trials : Nat → Nat → Trial) (requests : List DeletionRequest)
  /-- Time passes, and remembered numbers may be dropped. -/
  | passing (links users : Bool)

/-- The keeper after a happening. -/
def afterwards (k : DatabaseKeeper) : Happening → DatabaseKeeper
  | .call call => (call.perform k).2
  | .refused call => { (call.perform (k.within false)).2 with isOpen := k.isOpen }
  | .deletion p trials requests => (updateBatchTrying p trials requests k).2
  | .passing links users =>
      { k with
        linkCount := if links then none else k.linkCount
        userCount := if users then none else k.userCount }

theorem Remembers.dropped {α : Type} {count : Option Nat} {table : Option (List α)}
    (remembers : Remembers count table) (drop : Bool) :
    Remembers (if drop then none else count) table := by
  cases drop with
  | true => exact remembers_none table
  | false => exact remembers

/-- **Nothing makes a remembered number wrong.** -/
theorem Recalls.afterwards (recalls : k.Recalls) (happening : Happening) :
    (k.afterwards happening).Recalls := by
  cases happening with
  | call call => exact recalls.perform call
  | refused call =>
      have unreached : (k.within false).Recalls := ⟨recalls.links, recalls.users⟩
      have after := unreached.perform call
      exact ⟨after.links, after.users⟩
  | deletion p trials requests => exact recalls.updateBatchTrying p trials requests
  | passing links users => exact ⟨recalls.links.dropped links, recalls.users.dropped users⟩

/-- The counts of a table are right. -/
structure CountsTruly {α : Type} (count : Call DatabaseKeeper Nat) (table : Option (List α))
    (k : DatabaseKeeper) : Prop where
  /-- A count that is answered tells the number of rows, even if it is answered from memory while
  the database cannot be reached. -/
  told : ∀ (reached : Bool) (n : Nat), (count (k.within reached)).1 = .ok n →
    table.map List.length = some n
  /-- A table that can be read is counted. -/
  counted : ∀ rows, k.isOpen = true → table = some rows → (count k).1 = .ok rows.length

/-- The number that is remembered, or else the number of rows that are read. -/
def remembered {α : Type} (count : Option Nat) (read : Except DatabaseFailure (List α)) :
    Except Fault Nat :=
  match count with
  | some n => .ok n
  | none =>
      match read with
      | .ok rows => .ok rows.length
      | .error failure => .error (failure.within "统计失败")

theorem countLinks_answer (k : DatabaseKeeper) :
    (countLinks k).1 = remembered k.linkCount k.linkRows := by
  unfold countLinks remembered
  cases k.linkCount with
  | some n => rfl
  | none => cases k.linkRows <;> rfl

theorem countUsers_answer (k : DatabaseKeeper) :
    (countUsers k).1 = remembered k.userCount k.userRows := by
  unfold countUsers remembered
  cases k.userCount with
  | some n => rfl
  | none => cases k.userRows <;> rfl

theorem countsTruly {α : Type} {call : Call DatabaseKeeper Nat} {count : Option Nat}
    {name : String} {table : Option (List α)} (right : Remembers count table)
    (answers : ∀ reached, (call (k.within reached)).1
      = remembered count ((k.within reached).tableOf name table)) : CountsTruly call table k := by
  constructor
  case told =>
    intro reached n ok
    rw [answers] at ok
    cases count with
    | some known =>
        cases ok
        exact right n rfl
    | none =>
        cases read : (k.within reached).tableOf name table with
        | ok rows =>
            rw [read] at ok
            cases ok
            rw [of_tableOf read, Option.map_some]
        | error failure =>
            rw [read] at ok
            cases ok
  case counted =>
    intro rows isOpen here
    have reached : k.within true = k := by rw [within, Bool.and_true]
    have answer := answers true
    rw [reached, tableOf_of_isOpen isOpen here] at answer
    rw [answer]
    cases count with
    | some known =>
        have known_eq := right known rfl
        rw [here] at known_eq
        exact congrArg Except.ok (Option.some.inj known_eq).symm
    | none => rfl

/-- **Counts are never stale**: in every sequence of calls, refusals, deletions that are cut short
and lapses of memory, a count of the links or of the users that is answered tells the number of rows
in the table at that time. -/
theorem counts_never_stale (backend : String) (database : Database)
    (happenings : List Happening) :
    Throughout afterwards
      (fun k => CountsTruly Keeper.countLinks k.database.links k ∧
        CountsTruly Keeper.countUsers k.database.users k)
      { backend, database } happenings := by
  have start : Recalls { backend, database } := ⟨remembers_none _, remembers_none _⟩
  have throughout : Throughout afterwards Recalls { backend, database } happenings :=
    throughout_of_step (fun _ happening recalls _ => recalls.afterwards happening) start
      (along_true _ happenings)
  exact throughout.imp fun k recalls =>
    ⟨countsTruly recalls.links fun reached => countLinks_answer (k.within reached),
      countsTruly recalls.users fun reached => countUsers_answer (k.within reached)⟩

end DatabaseKeeper

end ShortLinks
