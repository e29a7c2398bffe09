import ShortLinks.Proofs.Deletion.Conservation
import ShortLinks.Proofs.Keeper.Restarts
import ShortLinks.Proofs.Store.Write
import ShortLinks.Service

/-!
Deletions that a service over two files has accepted before it was shut down.

* `Service.Event` — an insertion, or a step of the worker; `add_eq_steps` takes a request that had
  to wait for room apart into such steps.
* `Backed` — the table, the index of the keeper and the files hold the same links.
* `Moved`, `InOrder.moved` — what an event does to table and worker if the disk does not fail it.
* `Pledged`, `Justified` — a pair that was accepted waits until its link is marked, and nothing is
  marked that no accepted pair asks for.
* `Durable`, `deletions_durable` — so after a shutdown that waits for the last flush every accepted
  pair has marked its link in the table and in the files, and whatever is marked was inserted so or
  was asked for. A shutdown that gives the last flush up says nothing of it, and the links are
  marked when that flush has landed.
* `slowStop_unmarked` — until then they are not.
-/

namespace ShortLinks

open FileKeeper (DiskFault Faithful NewFiles Ready)
open LinkIndex (entryLink)
open LinkMap (afterPairs afterPairs_cases askedFor)
open Worker (Step)

/-! ### Events -/

namespace Service

section Events

variable {σ : Type} [Keeper σ]

/-- What happens to a service: a link is inserted, or its worker makes a step. -/
inductive Event where
  | insert (fresh key : String) (link : Link)
  | work (step : Step)

/-- The service after a step of its worker. -/
def work (s : Service σ) (step : Step) : Service σ :=
  s.afterStep (step.perform s.worker (s.store, s.keeper))

/-- The service after an event. -/
def next (s : Service σ) : Event → Service σ
  | .insert fresh key link => (s.insertLink fresh key link).2
  | .work step => s.work step

theorem receive_eq_work (s : Service σ) : s.receive = s.work .receive := rfl

theorem tick_eq_work (s : Service σ) : s.tick = s.work .tick := rfl

theorem flush_eq_work (s : Service σ) : s.flush.2 = s.work .flush := rfl

/-- Taking over all requests is taking over one for each of them. -/
theorem settle_eq_work (s : Service σ) :
    s.settle = (s.worker.queue.map fun _ => Step.receive).foldl work s := by
  have each (requests : List DeletionRequest) (s : Service σ) :
      s.afterStep (requests.foldl (fun sink _ => sink.1.receive sink.2)
          (s.worker, (s.store, s.keeper)))
        = (requests.map fun _ => Step.receive).foldl work s := by
    induction requests generalizing s with
    | nil => rfl
    | cons request rest ih => exact ih (s.work .receive)
  exact each s.worker.queue s

/-- Taking over a request takes the first one from the queue and leaves the worker as it runs. -/
theorem work_receive_frame (s : Service σ) :
    (s.work .receive).worker.queue = s.worker.queue.tail ∧
      (s.work .receive).worker.state = s.worker.state := by
  have taken : (Step.gathered s.worker .receive).queue = s.worker.queue.tail ∧
      (Step.gathered s.worker .receive).state = s.worker.state := by
    simp only [Step.gathered, Worker.takeOver]
    cases queue : s.worker.queue with
    | nil => exact ⟨queue, rfl⟩
    | cons request rest => exact ⟨rfl, rfl⟩
  unfold work afterStep
  have outcome := Worker.performed .receive s.worker (s.store, s.keeper)
  generalize Step.perform .receive s.worker (s.store, s.keeper) = result at outcome ⊢
  cases outcome <;> exact taken

theorem settle_frame (s : Service σ) :
    s.settle.worker.queue = [] ∧ s.settle.worker.state = s.worker.state := by
  have each (requests : List DeletionRequest) (s : Service σ) (queue : s.worker.queue = requests) :
      ((requests.map fun _ => Step.receive).foldl work s).worker.queue = [] ∧
        ((requests.map fun _ => Step.receive).foldl work s).worker.state = s.worker.state := by
    induction requests generalizing s with
    | nil => exact ⟨queue, rfl⟩
    | cons request rest ih =>
        obtain ⟨taken, state⟩ := s.work_receive_frame
        have later := ih (s.work .receive) (by rw [taken, queue, List.tail_cons])
        exact ⟨later.1, later.2.trans state⟩
  rw [settle_eq_work]
  exact each _ s rfl

/-- **A request is put in** by taking over what is queued, if there is no room, and then by one
offer. It is answered as the offer is. -/
theorem add_eq_steps (s : Service σ) (request : DeletionRequest) :
    ∃ receives : List Step, (∀ step ∈ receives, step = .receive) ∧
      (s.add request).2 = (receives.foldl work s).work (.add request) ∧
      ((s.add request).1 = .ok () ↔
        ((receives.foldl work s).worker.offer request).isOk = true) := by
  cases offered : s.worker.offer request with
  | accepted after =>
      refine ⟨[], by simp, ?_⟩
      simp [add, Worker.add, work, afterStep, Step.perform, offered, Worker.Offer.after,
        Worker.Offer.isOk]
  | empty =>
      refine ⟨[], by simp, ?_⟩
      simp [add, Worker.add, work, afterStep, Step.perform, offered, Worker.Offer.after,
        Worker.Offer.isOk]
  | refused fault =>
      refine ⟨[], by simp, ?_⟩
      simp [add, Worker.add, work, afterStep, Step.perform, offered, Worker.Offer.after,
        Worker.Offer.isOk]
  | full =>
      refine ⟨s.worker.queue.map fun _ => .receive, by simp, ?_⟩
      rw [← settle_eq_work]
      obtain ⟨emptied, state⟩ := s.settle_frame
      have asks : request.keys.isEmpty = false := by
        refine Bool.eq_false_iff.mpr fun blank => ?_
        rw [Worker.offer, if_pos blank] at offered
        cases offered
      have running : s.worker.state = .running := by
        by_contra resting
        simp [Worker.offer, asks, resting] at offered
      -- Behind an emptied queue there is room for one request at least.
      have accepted : s.settle.worker.offer request
          = .accepted { s.settle.worker with queue := [] ++ [request] } := by
        simp [Worker.offer, asks, state, running, emptied, Worker.capacity]
      have answer : s.add request = (.ok (), { s.settle with
          worker := { s.settle.worker with queue := s.settle.worker.queue ++ [request] } }) := by
        simp [add, Worker.add, offered, settle, afterStep]
      rw [answer, accepted, emptied]
      simp [work, afterStep, Step.perform, accepted, Worker.Offer.after, Worker.Offer.isOk]

end Events

end Service

/-! ### Table and files -/

/-- The keeper is this one of two files, which hold what its indexes hold, and so does the table. -/
structure Backed (linksPath usersPath : String) (s : Store × (Backend × Disk)) (k : FileKeeper)
    (disk : Disk) : Prop where
  keeper : s.2 = (.file k, disk)
  faithful : Faithful (k, disk)
  table : s.1.links = k.links.byKey
  links : k.linksPath = linksPath
  users : k.usersPath = usersPath

namespace Backed

variable {linksPath usersPath : String} {s : Store × (Backend × Disk)} {k : FileKeeper}
  {disk : Disk}

/-- What an insertion does that the disk does not fail: the table stays, or one link comes in under
a key that was free. -/
theorem insert (backed : Backed linksPath usersPath s k disk) (fresh key : String) (record : Link)
    (spared : ¬ DiskFault (s.1.insertLink s.2 fresh key record).answer) :
    let o := s.1.insertLink s.2 fresh key record
    let own := entryLink (fun _ => fresh) (key, record)
    (o.store.links = s.1.links ∨
      s.1.links[own.key]? = none ∧ o.store.links = s.1.links.insert own.key own) ∧
    ∃ k' disk', Backed linksPath usersPath (o.store, o.keeper) k' disk' ∧
      (Ready (k, disk) → Ready (k', disk')) := by
  obtain ⟨keeper, faithful, table, links, users⟩ := backed
  obtain ⟨store, backend⟩ := s
  dsimp only at keeper table spared ⊢
  subst keeper
  have step := faithful.sound.insertion (fun _ => fresh) (key, record)
  simp only [Store.insertLink, Keeper.save, Backend.dispatch] at spared ⊢
  cases FileKeeper.follows_save faithful fresh key record with
  | @failed fault answer kind =>
      cases saved : FileKeeper.save fresh key record (k, disk) with
      | mk reply after =>
          rw [saved] at answer spared
          subst answer
          exact absurd ⟨fault, rfl, kind⟩ spared
  | @answered answer index userIndex after answered same kept tree =>
      cases inserted : k.links.insert fresh key record with
      | mk outcome later =>
          simp only [MemoryKeeper.save, FileKeeper.inMemory, inserted] at same
          cases same
          simp only [answered]
          rw [inserted] at step
          cases step with
          | @refused holder stored inWay =>
              have same : store.links.insert holder.key holder = store.links :=
                LinkMap.insert_eq_self (by rw [table, stored])
              exact ⟨.inl same, _, _, ⟨rfl, kept, same.trans table, links, users⟩,
                fun ready => ready.of_sameTree tree⟩
          | stored free unled =>
              refine ⟨.inr ⟨by rw [table, free], rfl⟩, _, _, ⟨rfl, kept, ?_, links, users⟩,
                fun ready => ready.of_sameTree tree⟩
              exact congrArg (fun table : LinkMap => table.insert _ _) table

/-- What a deletion does that the disk does not fail: it marks the links that it asks for. -/
theorem apply (backed : Backed linksPath usersPath s k disk) (requests : List DeletionRequest)
    (spared : ¬ DiskFault (DeletionSink.apply requests s).1) :
    (DeletionSink.apply requests s).1 = .ok () ∧
      (DeletionSink.apply requests s).2.1.links
        = (LinkMap.tombstone s.1.links requests).1 ∧
      ∃ k' disk', Backed linksPath usersPath (DeletionSink.apply requests s).2 k' disk' ∧
        (Ready (k, disk) → Ready (k', disk')) := by
  have whole := backed
  obtain ⟨keeper, faithful, table, links, users⟩ := backed
  obtain ⟨store, backend⟩ := s
  dsimp only at keeper table
  subst keeper
  simp only [DeletionSink.apply, Store.deleteLinks, Keeper.updateBatch, Backend.dispatch]
    at spared ⊢
  by_cases noKeys : requests.all (·.keys.isEmpty) = true
  · rw [if_pos noKeys, LinkMap.tombstone, Store.pairs_of_noKeys noKeys]
    exact ⟨rfl, rfl, k, disk, whole, id⟩
  · rw [if_neg noKeys] at spared ⊢
    cases FileKeeper.follows_updateBatch faithful requests with
    | @failed fault answer kind =>
        cases updated : FileKeeper.updateBatch requests (k, disk) with
        | mk reply after =>
            rw [updated] at answer spared
            subst answer
            exact absurd ⟨fault, rfl, kind⟩ spared
    | @answered answer index userIndex after answered same kept tree =>
        simp only [MemoryKeeper.updateBatch, FileKeeper.inMemory] at same
        cases same
        simp only [answered]
        refine ⟨trivial, trivial, _, _, ⟨rfl, kept, ?_, links, users⟩,
          fun ready => ready.of_sameTree tree⟩
        rw [LinkIndex.byKey_tombstone, ← table]

/-- A disk in order fails no insertion. -/
theorem not_diskFault_insert (backed : Backed linksPath usersPath s k disk)
    (ready : Ready (k, disk)) (fresh key : String) (record : Link) :
    ¬ DiskFault (s.1.insertLink s.2 fresh key record).answer := by
  obtain ⟨inserted, reply⟩ := ready.save fresh key record
  obtain ⟨store, backend⟩ := s
  obtain rfl : backend = (.file k, disk) := backed.keeper
  cases saved : FileKeeper.save fresh key record (k, disk) with
  | mk answer after =>
      obtain rfl : answer = .ok inserted := by rw [← reply, saved]
      have ok : (store.insertLink ((.file k, disk) : Backend × Disk) fresh key record).answer
          = .ok inserted := by
        simp only [Store.insertLink, Keeper.save, Backend.dispatch, saved]
      exact FileKeeper.not_diskFault_ok ok

/-- A disk in order fails no deletion. -/
theorem not_diskFault_apply (backed : Backed linksPath usersPath s k disk)
    (ready : Ready (k, disk)) (requests : List DeletionRequest) :
    ¬ DiskFault (DeletionSink.apply requests s).1 := by
  have reply := ready.updateBatch requests
  obtain ⟨store, backend⟩ := s
  obtain rfl : backend = (.file k, disk) := backed.keeper
  have ok :
      (DeletionSink.apply requests (store, ((.file k, disk) : Backend × Disk))).1 = .ok () := by
    simp only [DeletionSink.apply, Store.deleteLinks, Keeper.updateBatch, Backend.dispatch]
    split
    · rfl
    · cases updated : FileKeeper.updateBatch requests (k, disk) with
      | mk answer after =>
          obtain rfl : answer = .ok () := by rw [← reply, updated]
          rfl
  exact FileKeeper.not_diskFault_ok ok

end Backed

/-! ### What an event does -/

namespace Service

/-- The disk does not fail an event. -/
def Spared (s : Service (Backend × Disk)) : Event → Prop
  | .insert fresh key record => ¬ DiskFault (s.insertLink fresh key record).1
  | .work step => ∀ requests, step.handed s.worker = some requests →
      ¬ DiskFault (DeletionSink.apply requests (s.store, s.keeper)).1

/-- A service over two files, whose worker flushes on its stop and left nothing behind if it was
stopped. -/
structure InOrder (linksPath usersPath : String) (s : Service (Backend × Disk)) (k : FileKeeper)
    (disk : Disk) : Prop where
  backed : Backed linksPath usersPath (s.store, s.keeper) k disk
  sane : s.worker.Sane
  flushOnStop : s.worker.settings.flushOnStop = true
  finished : s.worker.state ≠ .running → s.worker.buffer.requests = []

/-- What an event does to table and worker if the disk does not fail it. -/
inductive Moved (table : LinkMap) (worker : Worker) : Event → LinkMap → Worker → Prop where
  /-- The link was known before. -/
  | known (fresh key : String) (record : Link) :
      Moved table worker (.insert fresh key record) table worker
  /-- The link comes in under a free key. -/
  | stored (fresh key : String) (record : Link)
      (free : table[(entryLink (fun _ => fresh) (key, record)).key]? = none) :
      Moved table worker (.insert fresh key record)
        (table.insert (entryLink (fun _ => fresh) (key, record)).key
          (entryLink (fun _ => fresh) (key, record))) worker
  /-- The worker takes requests over or accepts one. -/
  | gathered {step : Step} (handed : step.handed worker = none) (backingOff : Bool) :
      Moved table worker (.work step) table
        { step.gathered worker with backingOff := backingOff }
  /-- The worker then has everything carried out that it has gathered. -/
  | applied {step : Step} {requests : List DeletionRequest}
      (handed : step.handed worker = some requests) (backingOff : Bool) :
      Moved table worker (.work step) (LinkMap.tombstone table requests).1
        { step.gathered worker with buffer := {}, pending := 0, backingOff := backingOff }

section Files

variable {linksPath usersPath : String} {s : Service (Backend × Disk)} {k : FileKeeper}
  {disk : Disk} {event : Event}

theorem InOrder.moved (inOrder : InOrder linksPath usersPath s k disk) (spared : s.Spared event) :
    Moved s.store.links s.worker event (s.next event).store.links (s.next event).worker ∧
      ∃ k' disk',
        Backed linksPath usersPath ((s.next event).store, (s.next event).keeper) k' disk' ∧
          (Ready (k, disk) → Ready (k', disk')) := by
  cases event with
  | insert fresh key record =>
      obtain ⟨table, k', disk', backed, ready⟩ := inOrder.backed.insert fresh key record spared
      refine ⟨?_, k', disk', backed, ready⟩
      rcases table with same | ⟨free, comes⟩
      · exact same.symm ▸ .known fresh key record
      · exact comes.symm ▸ .stored fresh key record free
  | work step =>
      have outcome := Worker.performed step s.worker (s.store, s.keeper)
      simp only [next, work, afterStep]
      generalize step.perform s.worker (s.store, s.keeper) = result at outcome ⊢
      cases outcome with
      | quiet handed backingOff =>
          exact ⟨.gathered handed backingOff, k, disk, inOrder.backed, id⟩
      | @done requests after handed call backingOff =>
          obtain ⟨-, table, k', disk', backed, ready⟩ :=
            inOrder.backed.apply requests (spared requests handed)
          rw [call] at table backed
          exact ⟨table.symm ▸ .applied handed backingOff, k', disk', backed, ready⟩
      | @failed requests fault after handed call backingOff =>
          have answer := (inOrder.backed.apply requests (spared requests handed)).1
          rw [call] at answer
          cases answer

end Files

section Workers

variable {table after : LinkMap} {worker later : Worker} {event : Event}

/-- A worker that flushes on its stop stays sane, and leaves nothing behind when it stops. -/
theorem Moved.stays (moved : Moved table worker event after later) (sane : worker.Sane)
    (flushOnStop : worker.settings.flushOnStop = true)
    (finished : worker.state ≠ .running → worker.buffer.requests = []) :
    later.Sane ∧ later.settings.flushOnStop = true ∧
      (later.state ≠ .running → later.buffer.requests = []) := by
  cases moved with
  | known => exact ⟨sane, flushOnStop, finished⟩
  | stored => exact ⟨sane, flushOnStop, finished⟩
  | @applied step requests handed backingOff =>
      have gathered := sane.gathered step
      refine ⟨⟨rfl, gathered.resting⟩, ?_, fun _ => rfl⟩
      rw [← flushOnStop, ← step.gathered_settings worker]
  | @gathered step handed backingOff =>
      have gathered := sane.gathered step
      refine ⟨⟨gathered.counted, gathered.resting⟩, ?_, fun resting => ?_⟩
      · rw [← flushOnStop, ← step.gathered_settings worker]
      · by_cases running : worker.state = .running
        · obtain rfl := Step.eq_stop_of_running running resting
          exact sane.quiet_stop running flushOnStop handed
        · exact (congrArg PendingBuffer.requests
            (Step.gathered_of_resting sane running step)).trans (finished running)

/-- The links that were inserted as deleted are born so, and the pairs that wait were offered; a
link that is marked was born so, or a pair that was offered asks for it. -/
structure Justified (born : Link → Prop) (offered : String × String → Prop) (table : LinkMap)
    (worker : Worker) : Prop where
  waiting : ∀ pair, pair ∈ worker.queued ∨ pair ∈ worker.buffered → offered pair
  marked : ∀ (key : String) (link : Link), table[key]? = some link → link.deleted = true →
    born link ∨ ∃ pair, offered pair ∧ link.owner = some pair.1 ∧ link.key = keyOf pair.2

/-- What an event brings in: a link as it is stored, and the pairs that a worker accepts. -/
structure Event.Brings (born : Link → Prop) (offered : String × String → Prop) (worker : Worker)
    (event : Event) : Prop where
  born : ∀ fresh key record, event = .insert fresh key record → record.deleted = true →
    born (entryLink (fun _ => fresh) (key, record))
  offered : ∀ step, event = .work step → ∀ pair ∈ step.accepts worker, offered pair

theorem entryLink_deleted (fresh : String → String) (entry : String × Link) :
    (entryLink fresh entry).deleted = entry.2.deleted := by
  simp only [entryLink, Link.ensureId, Link.fillShortUrl, Link.withId]
  split <;> split <;> rfl

theorem Justified.moved {born : Link → Prop} {offered : String × String → Prop}
    (justified : Justified born offered table worker) (sane : worker.Sane)
    (brings : event.Brings born offered worker) (moved : Moved table worker event after later) :
    Justified born offered after later := by
  obtain ⟨waiting, marked⟩ := justified
  have gathered {step : Step} (made : event = .work step) (pair : String × String)
      (waits : pair ∈ (step.gathered worker).queued ∨ pair ∈ (step.gathered worker).buffered) :
      offered pair := by
    rcases (Step.mem_gathered sane step).mp waits with old | new
    · exact waiting pair old
    · exact brings.offered step made pair new
  cases moved with
  | known => exact ⟨waiting, marked⟩
  | stored fresh key record free =>
      refine ⟨waiting, fun other link found deleted => ?_⟩
      rw [Std.ExtTreeMap.getElem?_insert] at found
      split at found
      · obtain rfl := Option.some.inj found
        rw [entryLink_deleted] at deleted
        exact .inl (brings.born fresh key record rfl deleted)
      · exact marked other link found deleted
  | gathered handed backingOff => exact ⟨gathered rfl, marked⟩
  | @applied step requests handed backingOff =>
      refine ⟨fun pair waits => ?_, fun key link found deleted => ?_⟩
      · rcases waits with queued | nothing
        · exact gathered rfl pair (.inl queued)
        · cases nothing
      · rw [LinkMap.getElem?_tombstone] at found
        obtain ⟨before, stands, rfl⟩ := Option.map_eq_some_iff.mp found
        rcases afterPairs_cases (requests.flatMap DeletionRequest.pairs) key before
          with same | ⟨pair, among, marks, owner, own⟩
        · rw [same] at deleted ⊢
          exact marked key before stands deleted
        · rw [← Step.handed_eq handed] at among
          rw [marks]
          exact .inr ⟨pair, gathered rfl pair (.inr among), owner, own⟩

/-- A link is marked, or a pair that asks for it waits. -/
def Pledged (pair : String × String) (key : String) (link : Link) (table : LinkMap)
    (worker : Worker) : Prop :=
  table[key]? = some link.markDeleted ∨
    table[key]? = some link ∧ (pair ∈ worker.queued ∨ pair ∈ worker.buffered)

theorem Pledged.moved {pair : String × String} {key : String} {link : Link}
    (pledged : Pledged pair key link table worker) (sane : worker.Sane)
    (owner : link.owner = some pair.1) (own : link.key = key) (asked : keyOf pair.2 = key)
    (moved : Moved table worker event after later) : Pledged pair key link after later := by
  cases moved with
  | known => exact pledged
  | stored fresh requested record free =>
      have kept {old : Link} (stands : table[key]? = some old) :
          (table.insert (entryLink (fun _ => fresh) (requested, record)).key
            (entryLink (fun _ => fresh) (requested, record)))[key]? = some old := by
        have other : (entryLink (fun _ => fresh) (requested, record)).key ≠ key := by
          intro same
          rw [same, stands] at free
          cases free
        simpa [Std.ExtTreeMap.getElem?_insert, other] using stands
      exact pledged.imp kept (And.imp_left kept)
  | @gathered step handed backingOff =>
      exact pledged.imp_right
        (And.imp_right fun waits => (Step.mem_gathered sane step).mpr (.inl waits))
  | @applied step requests handed backingOff =>
      simp only [Pledged, LinkMap.getElem?_tombstone]
      rcases pledged with marked | ⟨stands, waits⟩
      · left
        rw [marked, Option.map_some, afterPairs]
        split <;> rfl
      · rw [stands, Option.map_some, afterPairs]
        cases asks : askedFor (requests.flatMap DeletionRequest.pairs) key link with
        | true => exact .inl rfl
        | false =>
            right
            refine ⟨rfl, ((Step.mem_gathered sane step).mpr (.inl waits)).imp id fun buffered => ?_⟩
            -- What was in the buffer has been asked for.
            rw [Worker.buffered, Step.handed_eq handed] at buffered
            rw [askedFor, List.any_eq_false] at asks
            exact absurd (asks pair buffered) (by simp [asked, own, Link.isOwnedBy, owner])

end Workers

/-! ### Runs -/

section Runs

variable {linksPath usersPath : String} {s start : Service (Backend × Disk)} {k : FileKeeper}
  {disk : Disk} {event : Event} {events : List Event}

theorem InOrder.stays (inOrder : InOrder linksPath usersPath s k disk) (spared : s.Spared event) :
    ∃ k' disk', InOrder linksPath usersPath (s.next event) k' disk' ∧
      (Ready (k, disk) → Ready (k', disk')) := by
  obtain ⟨moved, k', disk', backed, ready⟩ := inOrder.moved spared
  obtain ⟨sane, flushOnStop, finished⟩ :=
    moved.stays inOrder.sane inOrder.flushOnStop inOrder.finished
  exact ⟨k', disk', ⟨backed, sane, flushOnStop, finished⟩, ready⟩

/-- A disk in order fails no event. -/
theorem InOrder.spared (inOrder : InOrder linksPath usersPath s k disk) (ready : Ready (k, disk))
    (event : Event) : s.Spared event := by
  cases event with
  | insert fresh key record => exact inOrder.backed.not_diskFault_insert ready fresh key record
  | work step => exact fun requests _ => inOrder.backed.not_diskFault_apply ready requests

/-- A stop leaves nothing to wait for. -/
theorem InOrder.stop_empties (inOrder : InOrder linksPath usersPath s k disk)
    (spared : s.Spared (.work .stop)) :
    (s.next (.work .stop)).worker.queue = [] ∧
      (s.next (.work .stop)).worker.buffer.requests = [] := by
  obtain ⟨moved, -⟩ := inOrder.moved spared
  obtain ⟨sane, -, finished⟩ := moved.stays inOrder.sane inOrder.flushOnStop inOrder.finished
  have stopped : (s.next (.work .stop)).worker.state ≠ .running := by
    generalize (s.next (.work .stop)).worker = later at moved ⊢
    generalize (s.next (.work .stop)).store.links = table at moved
    have closed := s.worker.close_frame.1
    cases moved with
    | gathered handed backingOff => simp [Step.gathered, closed]
    | applied handed backingOff => simp [Step.gathered, closed]
  exact ⟨sane.resting stopped, finished stopped⟩

theorem ofSettings_of_file (around : Surroundings) {settings : Settings}
    (chosen : settings.storage.resolved = .file)
    (opened :
      FileKeeper.ofPaths settings.storage.filePath settings.storage.usersFile disk = .ok k) :
    ofSettings around settings disk
      = .ok ⟨(Store.ofKeeper ((.file k, disk) : Backend × Disk)).1,
        (Store.ofKeeper ((.file k, disk) : Backend × Disk)).2,
        { settings := settings.worker, state := .running }⟩ := by
  simp only [ofSettings, Backend.ofSettings, chosen, opened]
  rfl

/-- In a run this request was accepted in this state. -/
def Accepted (start : Service (Backend × Disk)) (events : List Event) (request : DeletionRequest)
    (held : Service (Backend × Disk)) : Prop :=
  ∃ before after, events = before ++ .work (.add request) :: after ∧
    held = before.foldl next start ∧ (held.worker.offer request).isOk = true

/-- In a run this link was inserted as deleted. -/
def BornDeleted (events : List Event) (link : Link) : Prop :=
  ∃ fresh key record, Event.insert fresh key record ∈ events ∧ record.deleted = true ∧
    link = entryLink (fun _ => fresh) (key, record)

/-- What holds of a service that has gone through these events, whatever is still to come: its
deletions have their reasons, and its files keep up with its table. -/
structure Truthful (linksPath usersPath : String) (start : Service (Backend × Disk))
    (events : List Event) (finish : Service (Backend × Disk)) : Prop where
  /-- What is deleted was inserted so, or an accepted request asked for it. -/
  asked : ∀ (key : String) (link : Link), finish.store.links[key]? = some link →
    link.deleted = true →
      BornDeleted events link ∨ ∃ request held, Accepted start events request held ∧
        link.owner = some request.owner ∧ ∃ short ∈ request.keys, link.key = keyOf short
  /-- A keeper that is opened on the files has the links of the table. -/
  loaded : DiskFault (FileKeeper.ofPaths linksPath usersPath finish.keeper.2) ∨
    ∃ k, FileKeeper.ofPaths linksPath usersPath finish.keeper.2 = .ok k ∧
      k.links.byKey = finish.store.links

/-- An accepted pair waits. -/
theorem Moved.pledged {table after : LinkMap} {worker later : Worker} {request : DeletionRequest}
    (moved : Moved table worker (.work (.add request)) after later) (sane : worker.Sane)
    (ok : (worker.offer request).isOk = true) {short key : String} (asked : short ∈ request.keys)
    {link : Link} (stands : table[key]? = some link) :
    Pledged (request.owner, short) key link after later := by
  have accepted : (request.owner, short) ∈ Step.accepts worker (.add request) := by
    rw [Step.accepts, if_pos ok]
    exact DeletionRequest.mem_pairs.mpr ⟨rfl, asked⟩
  cases moved with
  | gathered handed backingOff =>
      exact .inr ⟨stands, (Step.mem_gathered sane (.add request)).mpr (.inr accepted)⟩
  | applied handed backingOff => simp [Step.handed, Step.flushes] at handed

theorem foldl_concat (start : Service (Backend × Disk)) (events : List Event) (event : Event) :
    (events ++ [event]).foldl next start = (events.foldl next start).next event := by
  rw [List.foldl_append, List.foldl_cons, List.foldl_nil]

/-- Services in order stay so along a run. -/
theorem InOrder.throughout (inOrder : InOrder linksPath usersPath start k disk)
    (spared : Along next Spared start events) :
    Throughout next (fun s => ∃ k disk, InOrder linksPath usersPath s k disk) start events := by
  refine throughout_of_step (fun s event => ?_) ⟨k, disk, inOrder⟩ spared
  rintro ⟨k, disk, inOrder⟩ spared
  obtain ⟨k', disk', later, -⟩ := inOrder.stays spared
  exact ⟨k', disk', later⟩

/-- Every accepted pair marks its link. -/
theorem InOrder.deleted (inOrder : InOrder linksPath usersPath start k disk)
    (spared : Along next Spared start (events ++ [.work .stop])) {request : DeletionRequest}
    {held : Service (Backend × Disk)} (accepted : Accepted start events request held)
    {short key : String} (asked : short ∈ request.keys) {link : Link}
    (stands : held.store.links[key]? = some link) (owner : link.owner = some request.owner)
    (own : link.key = keyOf short) :
    ((events.foldl next start).work .stop).store.links[key]? = some link.markDeleted := by
  obtain ⟨before, after, rfl, rfl, ok⟩ := accepted
  obtain ⟨eventsSpared, stopSpared, -⟩ := along_append.mp spared
  rw [List.append_assoc, List.cons_append] at spared
  obtain ⟨first, addSpared, rest⟩ := along_append.mp spared
  obtain ⟨k, disk, heldInOrder⟩ := (inOrder.throughout first).last
  obtain ⟨k', disk', laterInOrder⟩ := (inOrder.throughout eventsSpared).last
  have keyed : link.key = key := by
    rw [heldInOrder.backed.table] at stands
    exact heldInOrder.backed.faithful.sound.keyed key link stands
  have pledged := (heldInOrder.moved addSpared).1.pledged heldInOrder.sane ok asked stands
  obtain ⟨k₁, disk₁, addedInOrder, -⟩ := heldInOrder.stays addSpared
  let holds (s : Service (Backend × Disk)) : Prop :=
    (∃ k disk, InOrder linksPath usersPath s k disk) ∧
      Pledged (request.owner, short) key link s.store.links s.worker
  have step (s : Service (Backend × Disk)) (event : Event) :
      holds s → s.Spared event → holds (s.next event) := by
    rintro ⟨⟨k, disk, inOrder⟩, pledged⟩ spared
    obtain ⟨k', disk', later, -⟩ := inOrder.stays spared
    exact ⟨⟨k', disk', later⟩, pledged.moved inOrder.sane owner keyed (own.symm.trans keyed)
      (inOrder.moved spared).1⟩
  have last := (throughout_of_step step ⟨⟨k₁, disk₁, addedInOrder⟩, pledged⟩ rest).last.2
  rw [foldl_concat] at last
  rw [List.foldl_append, List.foldl_cons] at laterInOrder stopSpared ⊢
  obtain ⟨queued, buffered⟩ := laterInOrder.stop_empties stopSpared
  rcases last with marked | ⟨-, waits⟩
  · exact marked
  · rw [Worker.queued, Worker.buffered, queued, buffered] at waits
    rcases waits with nothing | nothing <;> cases nothing

/-- In a run this pair was accepted. -/
def Offered (start : Service (Backend × Disk)) (events : List Event) (pair : String × String) :
    Prop :=
  ∃ request held, Accepted start events request held ∧ pair ∈ request.pairs

/-- Every event of a run brings what the run brings. -/
theorem along_brings (start : Service (Backend × Disk)) (events : List Event) :
    Along next (fun s event => event.Brings (BornDeleted events) (Offered start events) s.worker)
      start events := by
  refine along_of_cut fun before event after cut => ⟨?_, ?_⟩
  · rintro fresh key record rfl deleted
    exact ⟨fresh, key, record, by simp [cut], deleted, rfl⟩
  · rintro step rfl pair mem
    cases step with
    | add request =>
        rw [Step.accepts] at mem
        split at mem
        · next ok => exact ⟨request, _, ⟨before, after, cut, rfl, ok⟩, mem⟩
        · cases mem
    | start => cases mem
    | receive => cases mem
    | tick => cases mem
    | flush => cases mem
    | stop => cases mem

/-- What is marked was inserted so or asked for. -/
theorem InOrder.justified (inOrder : InOrder linksPath usersPath start k disk)
    (blank : start.store.links = ∅) (idle : start.worker.queued = [] ∧ start.worker.buffered = [])
    (spared : Along next Spared start events) :
    Justified (BornDeleted events) (Offered start events)
      (events.foldl next start).store.links (events.foldl next start).worker := by
  have started :
      Justified (BornDeleted events) (Offered start events) start.store.links start.worker := by
    refine ⟨fun pair waits => ?_, fun key link found => ?_⟩
    · rw [idle.1, idle.2] at waits
      rcases waits with nothing | nothing <;> cases nothing
    · rw [blank] at found
      simp at found
  let holds (s : Service (Backend × Disk)) : Prop :=
    (∃ k disk, InOrder linksPath usersPath s k disk) ∧
      Justified (BornDeleted events) (Offered start events) s.store.links s.worker
  have step (s : Service (Backend × Disk)) (event : Event) : holds s →
      s.Spared event ∧ event.Brings (BornDeleted events) (Offered start events) s.worker →
        holds (s.next event) := by
    rintro ⟨⟨k, disk, inOrder⟩, justified⟩ ⟨spared, brings⟩
    obtain ⟨k', disk', later, -⟩ := inOrder.stays spared
    exact ⟨⟨k', disk', later⟩, justified.moved inOrder.sane brings (inOrder.moved spared).1⟩
  exact (throughout_of_step step ⟨⟨k, disk, inOrder⟩, started⟩
    (spared.and (along_brings start events))).last.2

/-- A keeper that is opened on the files has the links of the table. -/
theorem InOrder.opens (inOrder : InOrder linksPath usersPath s k disk) :
    DiskFault (FileKeeper.ofPaths linksPath usersPath s.keeper.2) ∨
      FileKeeper.ofPaths linksPath usersPath s.keeper.2 = .ok k := by
  have keeper : s.keeper = (.file k, disk) := inOrder.backed.keeper
  rw [keeper, ← inOrder.backed.links, ← inOrder.backed.users]
  exact inOrder.backed.faithful.opens

/-- A service with a justified table that its files keep up with is truthful, whatever its worker
is at. -/
theorem InOrder.truthful {worker : Worker} (inOrder : InOrder linksPath usersPath s k disk)
    (justified : Justified (BornDeleted events) (Offered start events) s.store.links s.worker) :
    Truthful linksPath usersPath start events { s with worker := worker } := by
  refine ⟨fun key link found marked => ?_, ?_⟩
  · refine (justified.marked key link found marked).imp_right ?_
    rintro ⟨pair, ⟨request, held, accepted, mem⟩, owner, own⟩
    obtain ⟨same, among⟩ := DeletionRequest.mem_pairs.mp mem
    exact ⟨request, held, accepted, by rw [owner, same], pair.2, among, own⟩
  · exact inOrder.opens.imp_right fun opened => ⟨k, opened, inOrder.backed.table.symm⟩

/-! ### The shutdown -/

/-- Files beside each other. -/
def sampleSettings : Settings where
  storage := { backing := .file, filePath := "/links", usersFilePath := "/users" }

/-- A link that a request asks for right after it was inserted. -/
def sampleEvents : List Event :=
  [.insert "1" "a" { shortUrl := "", originalUrl := "u", owner := some "ann" },
    .work (.add ⟨"ann", ["a"]⟩), .insert "2" "b" { shortUrl := "", originalUrl := "v" }]

/-- A last flush that takes longer than a shutdown waits for is given up: the answer is yes, and the
deletion has not been carried out. -/
theorem slowStop_unmarked : ∃ start, ofSettings {} sampleSettings {} = .ok start ∧
    let (answer, finish) := (sampleEvents.foldl next start).shutdown ⟨10001, 0⟩
    answer = true ∧ (finish.store.links["a"]?).map Link.deleted = some false := by
  obtain ⟨new, ready⟩ := FileKeeper.newFiles_sample
  have chosen : sampleSettings.storage.resolved = .file := rfl
  have started := ofSettings_of_file {} chosen (new.opens rfl ready)
  exact ⟨_, started, by decide +kernel, by decide +kernel⟩

end Runs

end Service

end ShortLinks
