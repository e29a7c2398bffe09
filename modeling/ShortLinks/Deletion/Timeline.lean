import ShortLinks.Deletion.Worker

/-!
The worker in time. Callers and the worker's own loop run side by side on one thread; a flush
takes as long as the sink takes, and meanwhile the buffer is locked: whoever else needs it waits
in the order of arrival. The clock moves only while everybody waits.

The loop prefers the end, then a due tick, then the queue. Callers go first at every moment, in
their order, and the loop goes on until it has to wait. A caller who finds the queue full is given
the next place that the loop frees.
-/

namespace ShortLinks

namespace Timeline

/-- What a caller asks for. -/
inductive Request where
  | start
  /-- Puts in these requests, one after the other. -/
  | add (requests : List DeletionRequest)
  | flush
  | stop
  /-- Waits for so many milliseconds. -/
  | sleep (duration : Nat)

/-- What a caller is answered. -/
inductive Reply where
  | done
  | failed (fault : Fault)
  /-- So many keys were flushed. -/
  | flushed (keys : Nat)
  /-- The outcome of each request that was put in. -/
  | added (outcomes : List (Except Fault Unit))

/-- How far a flush has come. -/
inductive Stage where
  /-- It needs the buffer. -/
  | wanting
  /-- The sink is at work until this time. -/
  | calling (ready : Nat)

/-- What a caller is at. -/
inductive Activity where
  /-- These requests are left; `waiting` tells whether the first of them waits for room. -/
  | adding (left : List DeletionRequest) (outcomes : List (Except Fault Unit)) (waiting : Bool)
  | flushing (stage : Stage)
  /-- Waits for the end of the loop. -/
  | stopping
  | sleeping (ready : Nat)
  | finished (reply : Reply)

/-- Why the loop flushes. -/
inductive Reason where
  | due
  | last
deriving DecidableEq

/-- What the loop is at. -/
inductive Phase where
  | absent
  /-- Waits for the end, a tick or a request. -/
  | selecting
  /-- Needs the buffer for a request; `ending` tells whether the end has come. -/
  | takingIn (request : DeletionRequest) (ending : Bool)
  | flushing (reason : Reason) (stage : Stage)
  /-- Takes over what is left in the queue. -/
  | draining
  | ended

/-- Who holds the buffer or waits for it. -/
inductive Party where
  | loop
  | caller (index : Nat)
deriving DecidableEq

/-- A call of the sink: when it began, and with what. -/
structure SinkCall where
  time : Nat
  requests : List DeletionRequest

end Timeline

open Timeline

/-- A worker in time, with its sink and the callers at work. -/
structure Timeline (σ : Type) where
  worker : Worker
  sink : σ
  /-- How long the sink takes for a call, in milliseconds. -/
  delay : Nat := 0
  now : Nat := 0
  phase : Phase := .absent
  nextTick : Nat := 0
  /-- Has the loop been told to end? -/
  cancelled : Bool := false
  /-- Does the queue take no more requests? -/
  closed : Bool := false
  holder : Option Party := none
  waitingForBuffer : List Party := []
  /-- Callers who wait for room, in order. -/
  waitingForRoom : List Nat := []
  /-- Callers who have been given a place in the queue and have not used it yet. -/
  granted : List Nat := []
  callers : List Activity := []
  /-- The calls of the sink, from the latest one. -/
  calls : List SinkCall := []

namespace Timeline

variable {σ : Type}

/-! ### The lock of the buffer -/

/-- The moment after a party asked for the buffer, and whether the party has it. -/
def acquire (t : Timeline σ) (party : Party) : Timeline σ × Bool :=
  match t.holder with
  | none => ({ t with holder := some party }, true)
  | some other =>
      if other = party then (t, true)
      else if t.waitingForBuffer.contains party then (t, false)
      else ({ t with waitingForBuffer := t.waitingForBuffer ++ [party] }, false)

/-- The moment after the holder gave the buffer to the first who waits for it. -/
def release (t : Timeline σ) : Timeline σ :=
  { t with holder := t.waitingForBuffer.head?, waitingForBuffer := t.waitingForBuffer.tail }

/-! ### The queue -/

/-- Is a place in the queue neither taken nor granted? -/
def hasRoom (t : Timeline σ) : Bool :=
  t.worker.queue.length + t.granted.length < t.worker.capacity

/-- The moment after a request was put into the queue. -/
def enqueue (t : Timeline σ) (request : DeletionRequest) : Timeline σ :=
  { t with worker := { t.worker with queue := t.worker.queue ++ [request] } }

/-- The first request of the queue, and the moment after it was taken out; its place goes to the
first who waits for room. -/
def dequeue (t : Timeline σ) : Option (DeletionRequest × Timeline σ) :=
  match t.worker.queue with
  | [] => none
  | request :: rest =>
      some (request,
        { t with
          worker := { t.worker with queue := rest }
          granted := t.granted ++ t.waitingForRoom.head?.toList
          waitingForRoom := t.waitingForRoom.tail })

/-! ### Flushes -/

/-- How a flush that has the buffer begins: with nothing to do, with its outcome at once, or with
a wait for the sink. -/
inductive Begun (σ : Type) where
  | over (answer : Except Fault Nat) (after : Timeline σ)
  | calling (ready : Nat) (after : Timeline σ)

variable [DeletionSink σ]

/-- The end of a call of the sink, which gives the buffer free. -/
def finishCall (t : Timeline σ) : Except Fault Nat × Timeline σ :=
  let (answer, worker, sink) := t.worker.flush t.sink
  (answer, { t with worker := worker, sink := sink }.release)

/-- The beginning of a flush that has the buffer. -/
def beginFlush (t : Timeline σ) : Begun σ :=
  if t.worker.buffer.isEmpty then .over (.ok 0) t.release
  else
    let t := { t with calls := ⟨t.now, t.worker.buffer.requests⟩ :: t.calls }
    if t.delay = 0 then
      let (answer, after) := t.finishCall
      .over answer after
    else .calling (t.now + t.delay) t

/-! ### The loop -/

/-- How late a tick may be and still leave the following ones in place, in milliseconds. -/
def lateness : Nat := 5

/-- The time between two ticks, in milliseconds. -/
def period (t : Timeline σ) : Nat := t.worker.settings.interval * 1000

/-- The time of the tick after one that is taken now. -/
def tickAfter (t : Timeline σ) : Nat :=
  if t.nextTick + lateness < t.now then t.now + t.period else t.nextTick + t.period

/-- The moment after a flush of the loop with this outcome. -/
def afterLoopFlush (t : Timeline σ) (reason : Reason) (answer : Except Fault Nat) : Timeline σ :=
  match reason with
  | .due =>
      { t with
        worker := { t.worker with backingOff := Worker.failed answer }
        phase := .selecting }
  | .last => { t with phase := .ended }

/-- The next step of the loop, and whether there was one; else the loop has to wait. -/
def loopStep (t : Timeline σ) : Timeline σ × Bool :=
  match t.phase with
  | .absent | .ended => (t, false)
  | .selecting =>
      if t.cancelled then ({ t with phase := .draining, closed := true }, true)
      else if t.nextTick ≤ t.now then
        ({ t with phase := .flushing .due .wanting, nextTick := t.tickAfter }, true)
      else
        match t.dequeue with
        | some (request, after) => ({ after with phase := .takingIn request false }, true)
        | none => (t, false)
  | .takingIn request ending =>
      match t.acquire .loop with
      | (t, false) => (t, false)
      | (t, true) =>
          let t := { t with worker := t.worker.takeIn request }.release
          if ending then ({ t with phase := .draining }, true)
          else if t.worker.isDue then ({ t with phase := .flushing .due .wanting }, true)
          else ({ t with phase := .selecting }, true)
  | .flushing reason .wanting =>
      match t.acquire .loop with
      | (t, false) => (t, false)
      | (t, true) =>
          match t.beginFlush with
          | .over answer after => (after.afterLoopFlush reason answer, true)
          | .calling ready after =>
              ({ after with phase := .flushing reason (.calling ready) }, true)
  | .flushing reason (.calling ready) =>
      if ready ≤ t.now then
        let (answer, after) := t.finishCall
        (after.afterLoopFlush reason answer, true)
      else (t, false)
  | .draining =>
      match t.dequeue with
      | some (request, after) => ({ after with phase := .takingIn request true }, true)
      | none =>
          if t.worker.pending = 0 || !t.worker.settings.flushOnStop then
            ({ t with phase := .ended }, true)
          else ({ t with phase := .flushing .last .wanting }, true)

/-! ### The callers -/

/-- The reply to a flush. -/
def flushReply : Except Fault Nat → Reply
  | .ok keys => .flushed keys
  | .error fault => .failed fault

/-- The beginning of a request. -/
def beginRequest (t : Timeline σ) : Request → Timeline σ × Activity
  | .start =>
      let (answer, worker) := t.worker.start
      let t := { t with worker := worker }
      match answer, t.phase with
      | .error fault, _ => (t, .finished (.failed fault))
      | .ok (), .absent =>
          ({ t with phase := .selecting, nextTick := t.now + t.period }, .finished .done)
      | .ok (), _ => (t, .finished .done)
  | .add requests => (t, .adding requests [] false)
  | .flush => (t, .flushing .wanting)
  | .stop =>
      match t.worker.state with
      | .stopped => (t, .finished .done)
      | .idle => ({ t with worker := { t.worker with state := .stopped } }, .finished .done)
      | .running =>
          ({ t with worker := { t.worker with state := .stopped }, cancelled := true }, .stopping)
  | .sleep duration => (t, .sleeping (t.now + duration))

/-- The next step of a caller who puts in this request, with the outcome if there is one. -/
def addStep (t : Timeline σ) (index : Nat) (request : DeletionRequest) (waiting : Bool) :
    Timeline σ × Option (Except Fault Unit) :=
  if waiting then
    if t.closed then (t, some (.error Worker.stoppedWhileWaiting))
    else if t.granted.contains index then
      ({ t with granted := t.granted.erase index }.enqueue request, some (.ok ()))
    else (t, none)
  else if request.keys.isEmpty then (t, some (.ok ()))
  else if t.worker.state ≠ .running then (t, some (.error Worker.notRunning))
  else if t.hasRoom then (t.enqueue request, some (.ok ()))
  else ({ t with waitingForRoom := t.waitingForRoom ++ [index] }, none)

/-- The next step of a caller, what the caller is at then, and whether there was a step. -/
def callerStep (t : Timeline σ) (index : Nat) : Activity → Timeline σ × Activity × Bool
  | .finished reply => (t, .finished reply, false)
  | .sleeping ready =>
      if ready ≤ t.now then (t, .finished .done, true) else (t, .sleeping ready, false)
  | .stopping =>
      match t.phase with
      | .ended => (t, .finished .done, true)
      | _ => (t, .stopping, false)
  | .adding [] outcomes _ => (t, .finished (.added outcomes), true)
  | .adding (request :: left) outcomes waiting =>
      match t.addStep index request waiting with
      | (t, some outcome) => (t, .adding left (outcomes ++ [outcome]) false, true)
      | (t, none) => (t, .adding (request :: left) outcomes true, false)
  | .flushing .wanting =>
      match t.acquire (.caller index) with
      | (t, false) => (t, .flushing .wanting, false)
      | (t, true) =>
          match t.beginFlush with
          | .over answer after => (after, .finished (flushReply answer), true)
          | .calling ready after => (after, .flushing (.calling ready), true)
  | .flushing (.calling ready) =>
      if ready ≤ t.now then
        let (answer, after) := t.finishCall
        (after, .finished (flushReply answer), true)
      else (t, .flushing (.calling ready), false)

/-! ### Moments

Within a moment everybody goes on until all have to wait. The bounds below count what is left to
do: each step either takes a request on or changes what somebody is at. -/

/-- The steps of the loop until it has to wait, and whether there were any. -/
def loopSteps : Nat → Timeline σ → Timeline σ × Bool
  | 0, t => (t, false)
  | fuel + 1, t =>
      match t.loopStep with
      | (t, false) => (t, false)
      | (t, true) => ((loopSteps fuel t).1, true)

/-- The steps of one caller until the caller has to wait, and whether there were any. -/
def callerSteps (index : Nat) : Nat → Timeline σ → Activity → Timeline σ × Activity × Bool
  | 0, t, activity => (t, activity, false)
  | fuel + 1, t, activity =>
      match t.callerStep index activity with
      | (t, activity, false) => (t, activity, false)
      | (t, activity, true) =>
          let (t, activity, _) := callerSteps index fuel t activity
          (t, activity, true)

/-- How many requests a caller has left to put in. -/
def Activity.left : Activity → Nat
  | .adding left _ _ => left.length
  | _ => 0

/-- The steps of these callers, in order, and whether there were any. -/
def callersSteps (index : Nat) : List Activity → Timeline σ → Timeline σ × List Activity × Bool
  | [], t => (t, [], false)
  | activity :: rest, t =>
      let (t, activity, moved) := callerSteps index (activity.left + 4) t activity
      let (t, others, more) := callersSteps (index + 1) rest t
      (t, activity :: others, moved || more)

/-- The sum of some amounts. -/
def total (amounts : List Nat) : Nat := amounts.foldl (· + ·) 0

/-- A bound on the steps of the loop at one moment. -/
def loopBound (t : Timeline σ) : Nat := 4 * t.worker.queue.length + 12

/-- A turn: all callers, then the loop. -/
def turn (t : Timeline σ) : Timeline σ × Bool :=
  let (t, callers, moved) := callersSteps 0 t.callers t
  let t := { t with callers := callers }
  let (t, more) := loopSteps t.loopBound t
  (t, moved || more)

/-- Turns until all have to wait. -/
def turns : Nat → Timeline σ → Timeline σ
  | 0, t => t
  | fuel + 1, t =>
      match t.turn with
      | (t, false) => t
      | (t, true) => turns fuel t

/-- The moment at its end, when all have to wait. -/
def settled (t : Timeline σ) : Timeline σ :=
  turns (2 * total (t.callers.map Activity.left) + t.callers.length + t.worker.queue.length + 8) t

/-! ### The clock -/

/-- The time at which a caller goes on by itself. -/
def Activity.wakes : Activity → Option Nat
  | .sleeping ready => some ready
  | .flushing (.calling ready) => some ready
  | _ => none

/-- The time at which the loop goes on by itself. -/
def loopWakes (t : Timeline σ) : Option Nat :=
  match t.phase with
  | .selecting => some t.nextTick
  | .flushing _ (.calling ready) => some ready
  | _ => none

/-- The next time at which anybody goes on. -/
def nextTime (t : Timeline σ) : Option Nat :=
  (t.loopWakes.toList ++ t.callers.filterMap Activity.wakes).min?

/-- Has a caller been answered? -/
def Activity.isFinished : Activity → Bool
  | .finished _ => true
  | _ => false

/-- Moves the clock from moment to moment until all callers have been answered. -/
def advance : Nat → Timeline σ → Timeline σ
  | 0, t => t
  | fuel + 1, t =>
      let t := t.settled
      if t.callers.all Activity.isFinished then t
      else
        match t.nextTime with
        | some time => advance fuel { t with now := max t.now time }
        | none => t

/-- A bound on the time that requests take, in milliseconds. -/
def bound (t : Timeline σ) (requests : List Request) : Nat :=
  let own : Request → Nat
    | .sleep duration => duration
    | .add added => added.length * (t.delay + 2)
    | _ => 0
  total (requests.map own) + (t.worker.queue.length + requests.length + 8) * (t.delay + 2)

/-- Begins requests in their order; each goes on until it has to wait before the next begins. -/
def beginRequests (t : Timeline σ) : List Request → Timeline σ
  | [] => t
  | request :: rest =>
      let (t, activity) := t.beginRequest request
      let (t, activity, _) := callerSteps t.callers.length (activity.left + 4) t activity
      beginRequests { t with callers := t.callers ++ [activity] } rest

/-- The reply to a caller who has been answered. -/
def Activity.reply? : Activity → Option Reply
  | .finished reply => some reply
  | _ => none

/-- Carries out requests that begin together and run side by side: the replies, and the moment
after the last of them. -/
def together (t : Timeline σ) (requests : List Request) : List Reply × Timeline σ :=
  let started := { t with callers := [] }.beginRequests requests
  let t := advance (t.bound requests) started
  (t.callers.filterMap Activity.reply?, { t with callers := [] })

end Timeline

end ShortLinks
