import ShortLinks.Deletion.Worker
import ShortLinks.Keeper.Choice

/-!
The service: a store over the keeper that the settings choose, and a running worker whose
deletions the store carries out.

Each function here is one step. So nothing comes between what an insertion does to the keeper and
what it does to the table, although another caller might be served in between.
-/

namespace ShortLinks

/-- A store with its keeper, and the worker. -/
structure Service (σ : Type) where
  store : Store
  keeper : σ
  worker : Worker

namespace Service

/-- The service that the settings ask for, on a disk and in its surroundings. -/
def ofSettings (around : Surroundings) (settings : Settings) (disk : Disk) :
    Except Fault (Service (Backend × Disk)) := do
  let keeper ← Backend.ofSettings around settings.storage disk
  let (store, keeper) := Store.ofKeeper keeper
  let (started, worker) := Worker.start { settings := settings.worker }
  started
  return ⟨store, keeper, worker⟩

/-- How long the tasks of a shutdown take, in milliseconds. -/
structure Pace where
  stop : Nat := 0
  close : Nat := 0

/-- How long a shutdown waits for each of its tasks, in milliseconds. -/
def taskLimit : Nat := 10000

/-- How long a shutdown waits for all of them, in milliseconds. -/
def shutdownLimit : Nat := 30000

section Steps

variable {σ : Type} [Keeper σ]

/-- The service after a step of the worker. -/
def afterStep (_ : Service σ) (step : Worker × (Store × σ)) : Service σ :=
  ⟨step.2.1, step.2.2, step.1⟩

/-- Inserts a link. -/
def insertLink (s : Service σ) (fresh key : String) (link : Link) :
    Except Fault (Inserted Link) × Service σ :=
  let o := s.store.insertLink s.keeper fresh key link
  (o.answer, { s with store := o.store, keeper := o.keeper })

/-- Puts a deletion request in. -/
def add (s : Service σ) (request : DeletionRequest) : Except Fault Unit × Service σ :=
  let (answer, step) := s.worker.add (s.store, s.keeper) request
  (answer, s.afterStep step)

/-- The worker takes over the first request of its queue. -/
def receive (s : Service σ) : Service σ := s.afterStep (s.worker.receive (s.store, s.keeper))

/-- The worker takes over all requests of its queue. -/
def settle (s : Service σ) : Service σ := s.afterStep (s.worker.settle (s.store, s.keeper))

/-- The clock of the worker ticks. -/
def tick (s : Service σ) : Service σ := s.afterStep (s.worker.tick (s.store, s.keeper))

/-- Carries out what the worker has gathered. -/
def flush (s : Service σ) : Except Fault Nat × Service σ :=
  let (answer, step) := s.worker.flush (s.store, s.keeper)
  (answer, s.afterStep step)

/-- Stops the worker, with its last flush, and then closes the keeper, at this pace. Each task is
given up at its limit, and then counts as over: the last flush of a worker whose stop is given up is
still to come, and a keeper that is being closed takes no more calls. The answer tells whether all
this was over in time. -/
def shutdown (s : Service σ) (pace : Pace) : Bool × Service σ :=
  let s :=
    if pace.stop ≤ taskLimit then s.afterStep (s.worker.stop (s.store, s.keeper))
    else { s with worker := s.worker.close }
  (min pace.stop taskLimit + min pace.close taskLimit ≤ shutdownLimit,
    { s with keeper := (Keeper.close s.keeper).2 })

end Steps

end Service

end ShortLinks
