import ShortLinks.Deletion.Pending
import ShortLinks.Deletion.Sink
import ShortLinks.Settings.Basic

/-!
The worker that gathers deletion requests and carries them out together. Callers put requests
into a queue of limited size; the worker takes them over into its buffer and flushes the buffer
to a sink on every tick, when enough keys have been gathered, on demand, and when it stops. A
failed flush keeps the buffer as it is, and after one of its own the worker waits for the next
tick before it tries again.

Each function here is one step that nothing interrupts; a run of the worker is a sequence of
them. When the clock ticks is left to the run, so the length of the interval plays no part, and
neither do the limits of the clock and of the queue, beyond which a start breaks off before anything
is taken.
-/

namespace ShortLinks

/-- The life of a worker. -/
inductive WorkerState where
  | idle
  | running
  | stopped
deriving DecidableEq, Inhabited

/-- A worker. -/
structure Worker where
  settings : WorkerSettings := {}
  state : WorkerState := .idle
  /-- Requests that were put in and not yet taken over. -/
  queue : List DeletionRequest := []
  /-- Requests that were taken over and not yet carried out. -/
  buffer : PendingBuffer := {}
  /-- The number of requests that wait to be carried out, as it was last made known. -/
  pending : Nat := 0
  /-- Did the last flush of the worker's own fail? -/
  backingOff : Bool := false
deriving Inhabited

namespace Worker

/-! ### Faults -/

/-- Requests are taken only while the worker runs. -/
def notRunning : Fault := ⟨.workerUnavailable, "deletion worker is not running"⟩

/-- A worker that was stopped cannot start again. -/
def alreadyStopped : Fault := ⟨.workerUnavailable, "deletion worker already stopped"⟩

/-- The worker stopped while a caller waited for room in the queue. -/
def stoppedWhileWaiting : Fault :=
  ⟨.workerUnavailable, "deletion worker stopped while enqueuing"⟩

/-! ### Parts of steps -/

/-- How many requests the queue takes, at least one. -/
def capacity (w : Worker) : Nat := max w.settings.queueCapacity 1

/-- The worker with a request taken over into the buffer. -/
def takeIn (w : Worker) (request : DeletionRequest) : Worker :=
  let buffer := w.buffer.push request
  { w with buffer := buffer, pending := buffer.requests.length }

/-- Are there enough keys for a flush ahead of time? -/
def isDue (w : Worker) : Bool :=
  !w.backingOff && w.settings.maxPending ≤ w.buffer.keyCount

/-- The worker after a flush with this outcome. -/
def afterFlush (w : Worker) (answer : Except Fault Unit) : Worker :=
  match answer with
  | .ok () => { w with buffer := {}, pending := 0 }
  | .error _ => w

/-- Did a flush fail? -/
def failed {α : Type} : Except Fault α → Bool
  | .ok _ => false
  | .error _ => true

/-- The worker with its queue taken over into the buffer. -/
def drain (w : Worker) : Worker :=
  { w.queue.foldl takeIn w with queue := [] }

/-- The worker that takes no more requests and has all of them in its buffer. -/
def close (w : Worker) : Worker :=
  match w.state with
  | .stopped => w
  | .idle => { w with state := .stopped }
  | .running => { w with state := .stopped }.drain

/-! ### Steps -/

/-- Starts the worker; one that runs goes on. -/
def start (w : Worker) : Except Fault Unit × Worker :=
  match w.state with
  | .idle => (.ok (), { w with state := .running })
  | .running => (.ok (), w)
  | .stopped => (.error alreadyStopped, w)

/-- What becomes of a request that is put in. -/
inductive Offer where
  | accepted (after : Worker)
  /-- There is nothing to do. -/
  | empty
  /-- There is no room in the queue yet. -/
  | full
  | refused (fault : Fault)

/-- Puts a request into the queue. -/
def offer (w : Worker) (request : DeletionRequest) : Offer :=
  if request.keys.isEmpty then .empty
  else if w.state ≠ .running then .refused notRunning
  else if w.queue.length < w.capacity then .accepted { w with queue := w.queue ++ [request] }
  else .full

section Flushing

variable {σ : Type} [DeletionSink σ]

/-- Carries out what is gathered; the answer is the number of keys. -/
def flush (w : Worker) (sink : σ) : Except Fault Nat × Worker × σ :=
  if w.buffer.isEmpty then (.ok 0, w, sink)
  else
    let (answer, sink) := DeletionSink.apply w.buffer.requests sink
    (answer.map fun _ => w.buffer.keyCount, w.afterFlush answer, sink)

/-- A flush of the worker's own: whether it failed decides about the next one. -/
def ownFlush (w : Worker) (sink : σ) : Worker × σ :=
  let (answer, w, sink) := w.flush sink
  ({ w with backingOff := failed answer }, sink)

/-- Takes over the first request of the queue, and flushes if enough keys are gathered. -/
def receive (w : Worker) (sink : σ) : Worker × σ :=
  match w.queue with
  | [] => (w, sink)
  | request :: rest =>
      let w := { w with queue := rest }.takeIn request
      if w.isDue then w.ownFlush sink else (w, sink)

/-- A tick of the clock. -/
def tick (w : Worker) (sink : σ) : Worker × σ :=
  if w.state = .running then w.ownFlush sink else (w, sink)

/-- The last flush, if there is anything to flush and the settings ask for it. -/
def lastFlush (w : Worker) (sink : σ) : Worker × σ :=
  if w.pending = 0 then (w, sink)
  else if w.settings.flushOnStop then
    let (_, w, sink) := w.flush sink
    (w, sink)
  else (w, sink)

/-- Stops the worker: it takes over what is queued and flushes a last time. -/
def stop (w : Worker) (sink : σ) : Worker × σ :=
  match w.state with
  | .stopped => (w, sink)
  | .idle => ({ w with state := .stopped }, sink)
  | .running => { w with state := .stopped }.drain.lastFlush sink

/-- Takes over all requests of the queue, one by one. -/
def settle (w : Worker) (sink : σ) : Worker × σ :=
  w.queue.foldl (fun s _ => s.1.receive s.2) (w, sink)

/-- Puts a request in; where there is no room the worker first takes over what is queued. -/
def add (w : Worker) (sink : σ) (request : DeletionRequest) : Except Fault Unit × Worker × σ :=
  match w.offer request with
  | .accepted after => (.ok (), after, sink)
  | .empty => (.ok (), w, sink)
  | .refused fault => (.error fault, w, sink)
  | .full =>
      let (w, sink) := w.settle sink
      (.ok (), { w with queue := w.queue ++ [request] }, sink)

end Flushing

end Worker

end ShortLinks
