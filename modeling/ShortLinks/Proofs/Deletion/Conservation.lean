import ShortLinks.Deletion.Worker
import ShortLinks.Proofs.Deletion.Pending
import ShortLinks.Proofs.Run

/-!
The worker loses no request that it has accepted and makes up none.

* `Worker.Step`, `Ledger` — the steps of a run in any order, and a worker over any sink together
  with the pairs it has accepted and the requests that the sink has carried out.
* `perform_eq` — a step takes requests over on the way, and then flushes what is gathered or not.
* `Ledger.Conserved` — the accepted pairs are those in the queue, in the buffer and carried out;
  what is made known as pending is what the buffer holds; and only a worker that runs has a queue.
* `Ledger.Reliable` — what a step owes its caller: a call of the sink that fails leaves the buffer
  as it was handed over, and a stop empties the queue.
* `conserved_throughout` — both hold along every run.
-/

namespace ShortLinks

namespace Worker

/-! ### Steps -/

/-- A step of a run: a call on the worker or a move of its loop. -/
inductive Step where
  | start
  /-- Offers a request. Where there is no room nothing happens, and the caller offers it again. -/
  | add (request : DeletionRequest)
  /-- The loop takes over the first request of the queue. -/
  | receive
  | tick
  | flush
  | stop

/-- The worker after an offer. -/
def Offer.after (w : Worker) : Offer → Worker
  | .accepted after => after
  | _ => w

/-- Is an offer answered with success? -/
def Offer.isOk : Offer → Bool
  | .accepted _ | .empty => true
  | .full | .refused _ => false

/-- The worker with the first request of the queue in its buffer. -/
def takeOver (w : Worker) : Worker :=
  match w.queue with
  | [] => w
  | request :: rest => { w with queue := rest }.takeIn request

namespace Step

/-- The pairs of a request that the caller of a step is told to have been accepted. -/
def accepts (w : Worker) : Step → List (String × String)
  | .add request => if (w.offer request).isOk then request.pairs else []
  | _ => []

/-- The worker with what a step takes over, before it calls the sink. -/
def gathered (w : Worker) : Step → Worker
  | .start => w.start.2
  | .add request => (w.offer request).after w
  | .receive => w.takeOver
  | .tick | .flush => w
  | .stop => w.close

/-- Does a step flush what is gathered? -/
def flushes (w : Worker) : Step → Bool
  | .start | .add _ => false
  | .receive => !w.queue.isEmpty && w.takeOver.isDue
  | .tick => w.state = .running
  | .flush => true
  | .stop => w.state = .running && w.close.pending ≠ 0 && w.close.settings.flushOnStop

/-- The requests that a step hands to the sink, if it calls it. -/
def handed (w : Worker) (step : Step) : Option (List DeletionRequest) :=
  if flushes w step && !(gathered w step).buffer.isEmpty then
    some (gathered w step).buffer.requests
  else none

end Step

section Performing

variable {σ : Type} [DeletionSink σ]

/-- Worker and sink after a step. -/
def Step.perform (step : Step) (w : Worker) (sink : σ) : Worker × σ :=
  match step with
  | .start => (w.start.2, sink)
  | .add request => ((w.offer request).after w, sink)
  | .receive => w.receive sink
  | .tick => w.tick sink
  | .flush => (w.flush sink).2
  | .stop => w.stop sink

/-- What a flush does: nothing, or one call of the sink, which empties the buffer if it goes well
and changes nothing in the worker if it fails. -/
inductive Flushed (w : Worker) (sink : σ) : Except Fault Nat × Worker × σ → Prop where
  | idle (blank : w.buffer.isEmpty = true) : Flushed w sink (.ok 0, w, sink)
  | done {after : σ} (filled : w.buffer.isEmpty = false)
      (call : DeletionSink.apply w.buffer.requests sink = (.ok (), after)) :
      Flushed w sink (.ok w.buffer.keyCount, { w with buffer := {}, pending := 0 }, after)
  | failed {fault : Fault} {after : σ} (filled : w.buffer.isEmpty = false)
      (call : DeletionSink.apply w.buffer.requests sink = (.error fault, after)) :
      Flushed w sink (.error fault, w, after)

theorem flushed (w : Worker) (sink : σ) : Flushed w sink (w.flush sink) := by
  unfold flush
  split
  · next blank => exact .idle blank
  · next filled =>
      have filled : w.buffer.isEmpty = false := Bool.eq_false_iff.mpr filled
      cases call : DeletionSink.apply w.buffer.requests sink with
      | mk answer after =>
          cases answer with
          | ok => exact .done filled call
          | error fault => exact .failed filled call

theorem receive_eq (w : Worker) (sink : σ) :
    w.receive sink =
      if Step.flushes w .receive then w.takeOver.ownFlush sink else (w.takeOver, sink) := by
  unfold Step.flushes receive takeOver
  cases w.queue <;> rfl

theorem stop_eq (w : Worker) (sink : σ) :
    w.stop sink = if Step.flushes w .stop then (w.close.flush sink).2 else (w.close, sink) := by
  unfold Step.flushes stop close
  cases w.state with
  | idle => rfl
  | stopped => rfl
  | running =>
      simp only [lastFlush]
      by_cases none : ({ w with state := .stopped }.drain).pending = 0 <;> simp [none]

/-- **A step gathers, and then flushes or not.** Beyond that it only notes whether its own flush
failed. -/
theorem perform_eq (step : Step) (w : Worker) (sink : σ) :
    ∃ backingOff, step.perform w sink =
      if step.flushes w then
        ({ ((step.gathered w).flush sink).2.1 with backingOff := backingOff },
          ((step.gathered w).flush sink).2.2)
      else (step.gathered w, sink) := by
  cases step with
  | start => exact ⟨w.backingOff, rfl⟩
  | add request => exact ⟨w.backingOff, rfl⟩
  | receive => exact ⟨failed (w.takeOver.flush sink).1, receive_eq w sink⟩
  | tick =>
      refine ⟨failed (w.flush sink).1, ?_⟩
      simp only [Step.perform, Step.flushes, Step.gathered, tick, ownFlush, decide_eq_true_eq]
  | flush => exact ⟨(w.flush sink).2.1.backingOff, rfl⟩
  | stop => exact ⟨(w.close.flush sink).2.1.backingOff, stop_eq w sink⟩

/-- What a step does with the sink: it leaves it alone, or hands it the buffer, which is empty
afterwards if that goes well and as it was if it fails. -/
inductive Performed (step : Step) (w : Worker) (sink : σ) : Worker × σ → Prop where
  | quiet (handed : step.handed w = none) (backingOff : Bool) :
      Performed step w sink ({ step.gathered w with backingOff := backingOff }, sink)
  | done {requests : List DeletionRequest} {after : σ} (handed : step.handed w = some requests)
      (call : DeletionSink.apply requests sink = (.ok (), after)) (backingOff : Bool) :
      Performed step w sink
        ({ step.gathered w with buffer := {}, pending := 0, backingOff := backingOff }, after)
  | failed {requests : List DeletionRequest} {fault : Fault} {after : σ}
      (handed : step.handed w = some requests)
      (call : DeletionSink.apply requests sink = (.error fault, after)) (backingOff : Bool) :
      Performed step w sink ({ step.gathered w with backingOff := backingOff }, after)

theorem performed (step : Step) (w : Worker) (sink : σ) :
    Performed step w sink (step.perform w sink) := by
  obtain ⟨backingOff, perform⟩ := perform_eq step w sink
  rw [perform]
  by_cases flushes : step.flushes w = true
  · rw [if_pos flushes]
    have outcome := flushed (step.gathered w) sink
    generalize (step.gathered w).flush sink = result at outcome ⊢
    cases outcome with
    | idle blank => exact .quiet (by simp [Step.handed, blank]) backingOff
    | done filled call => exact .done (by simp [Step.handed, flushes, filled]) call backingOff
    | failed filled call => exact .failed (by simp [Step.handed, flushes, filled]) call backingOff
  · rw [if_neg flushes]
    exact .quiet (by simp [Step.handed, flushes]) (step.gathered w).backingOff

theorem Step.handed_eq {step : Step} {w : Worker} {requests : List DeletionRequest}
    (handed : step.handed w = some requests) : (step.gathered w).buffer.requests = requests := by
  unfold Step.handed at handed
  split at handed
  · exact Option.some.inj handed
  · nomatch handed

end Performing

/-! ### Gathering -/

/-- The pairs that wait in the queue. -/
def queued (w : Worker) : List (String × String) := w.queue.flatMap DeletionRequest.pairs

/-- The pairs that wait in the buffer. -/
def buffered (w : Worker) : List (String × String) :=
  w.buffer.requests.flatMap DeletionRequest.pairs

/-- What holds of every worker between two steps. -/
structure Sane (w : Worker) : Prop where
  counted : w.pending = w.buffer.requests.length
  resting : w.state ≠ .running → w.queue = []

variable {w : Worker} {pair : String × String}

theorem foldl_takeIn (counted : w.pending = w.buffer.requests.length)
    (requests : List DeletionRequest) :
    requests.foldl takeIn w =
      { w with
        buffer := requests.foldl PendingBuffer.push w.buffer
        pending := (requests.foldl PendingBuffer.push w.buffer).requests.length } := by
  induction requests generalizing w with
  | nil => rw [List.foldl_nil, List.foldl_nil, ← counted]
  | cons request rest ih => exact ih rfl

theorem foldl_takeIn_frame (requests : List DeletionRequest) (w : Worker) :
    (requests.foldl takeIn w).state = w.state ∧
      (requests.foldl takeIn w).settings = w.settings := by
  induction requests generalizing w with
  | nil => exact ⟨rfl, rfl⟩
  | cons request rest ih => exact ih (w.takeIn request)

/-- Closing a worker that runs empties its queue into the buffer. -/
theorem close_of_running (counted : w.pending = w.buffer.requests.length)
    (running : w.state = .running) :
    w.close =
      { w with
        state := .stopped
        queue := []
        buffer := w.queue.foldl PendingBuffer.push w.buffer
        pending := (w.queue.foldl PendingBuffer.push w.buffer).requests.length } := by
  simp only [close, running, drain]
  rw [foldl_takeIn (w := { w with state := .stopped }) counted]

theorem close_frame (w : Worker) :
    w.close.state = .stopped ∧ w.close.settings = w.settings := by
  unfold close
  split
  · next stopped => exact ⟨stopped, rfl⟩
  · exact ⟨rfl, rfl⟩
  · exact foldl_takeIn_frame w.queue { w with state := .stopped }

/-- An offer puts the request at the end of the queue of a worker that runs, or does nothing. -/
theorem offer_cases (w : Worker) (request : DeletionRequest) :
    (w.state = .running ∧
      w.offer request = .accepted { w with queue := w.queue ++ [request] }) ∨
    ((w.offer request).after w = w ∧ (Step.add request).accepts w = []) := by
  simp only [Step.accepts, offer]
  by_cases blank : request.keys.isEmpty = true
  · simp [blank, Offer.after, Offer.isOk, DeletionRequest.pairs_eq_nil_of_isEmpty blank]
  by_cases running : w.state = .running
  · by_cases room : w.queue.length < w.capacity <;>
      simp [blank, running, room, Offer.after, Offer.isOk]
  · simp [blank, running, Offer.after, Offer.isOk]

theorem Sane.gathered (sane : w.Sane) (step : Step) : (step.gathered w).Sane := by
  obtain ⟨counted, resting⟩ := sane
  cases step with
  | start =>
      simp only [Step.gathered, start]
      cases state : w.state with
      | idle => exact ⟨counted, fun stands => absurd rfl stands⟩
      | running => exact ⟨counted, resting⟩
      | stopped => exact ⟨counted, resting⟩
  | add request =>
      simp only [Step.gathered]
      obtain ⟨running, accepted⟩ | ⟨same, -⟩ := offer_cases w request
      · rw [accepted]
        exact ⟨counted, fun stands => absurd running stands⟩
      · rw [same]
        exact ⟨counted, resting⟩
  | receive =>
      simp only [Step.gathered, takeOver]
      cases queue : w.queue with
      | nil => exact ⟨counted, resting⟩
      | cons request rest =>
          refine ⟨rfl, fun stands => ?_⟩
          have blank := resting stands
          rw [queue] at blank
          exact absurd blank (List.cons_ne_nil request rest)
  | tick => exact ⟨counted, resting⟩
  | flush => exact ⟨counted, resting⟩
  | stop =>
      simp only [Step.gathered]
      by_cases running : w.state = .running
      · rw [close_of_running counted running]
        exact ⟨rfl, fun _ => rfl⟩
      · unfold close
        split
        · exact ⟨counted, resting⟩
        · exact ⟨counted, fun _ => resting running⟩
        · next runs => exact absurd runs running

/-- Taking over a request moves its pairs from the queue into the buffer. -/
theorem mem_takeOver :
    pair ∈ w.takeOver.queued ∨ pair ∈ w.takeOver.buffered ↔
      pair ∈ w.queued ∨ pair ∈ w.buffered := by
  unfold takeOver
  cases queue : w.queue with
  | nil => simp only [queued, queue]
  | cons request rest =>
      simp only [queued, buffered, takeIn, PendingBuffer.mem_pairs_push, queue,
        List.flatMap_cons, List.mem_append]
      rw [or_comm (a := pair ∈ request.pairs), or_assoc, or_comm (b := pair ∈ request.pairs)]

/-- **What a step gathers is what waited before and what it accepts.** -/
theorem Step.mem_gathered (sane : w.Sane) (step : Step) :
    (pair ∈ (step.gathered w).queued ∨ pair ∈ (step.gathered w).buffered) ↔
      (pair ∈ w.queued ∨ pair ∈ w.buffered) ∨ pair ∈ step.accepts w := by
  cases step with
  | start =>
      simp only [gathered, Worker.start, accepts, List.not_mem_nil, or_false]
      cases w.state <;> rfl
  | add request =>
      simp only [gathered]
      obtain ⟨-, accepted⟩ | ⟨same, nothing⟩ := offer_cases w request
      · simp only [accepts, accepted, Offer.after, Offer.isOk, queued, buffered,
          List.flatMap_append, List.flatMap_singleton, List.mem_append, if_true]
        exact or_right_comm
      · rw [same, nothing]
        simp
  | receive =>
      simp only [gathered, mem_takeOver, accepts, List.not_mem_nil, or_false]
  | tick => simp [gathered, accepts]
  | flush => simp [gathered, accepts]
  | stop =>
      simp only [gathered, accepts, List.not_mem_nil, or_false]
      by_cases running : w.state = .running
      · rw [close_of_running sane.counted running]
        simp only [queued, buffered, PendingBuffer.mem_foldl_push, List.flatMap_nil,
          List.not_mem_nil, false_or]
      · unfold close
        split
        · rfl
        · rfl
        · next runs => exact absurd runs running

/-- A worker that is still not started was not started before, and has accepted nothing. -/
theorem Step.of_gathered_idle {step : Step} (idle : (step.gathered w).state = .idle) :
    w.state = .idle ∧ step.accepts w = [] := by
  cases step with
  | start =>
      simp only [gathered, Worker.start] at idle
      cases state : w.state <;> simp [state] at idle
  | add request =>
      simp only [gathered] at idle
      obtain ⟨running, accepted⟩ | ⟨same, nothing⟩ := offer_cases w request
      · rw [accepted] at idle
        exact absurd (running.symm.trans idle) (by decide)
      · rw [same] at idle
        exact ⟨idle, nothing⟩
  | receive =>
      simp only [gathered, takeOver] at idle
      cases queue : w.queue <;> rw [queue] at idle <;> exact ⟨idle, rfl⟩
  | tick => exact ⟨idle, rfl⟩
  | flush => exact ⟨idle, rfl⟩
  | stop =>
      simp only [gathered] at idle
      exact absurd (w.close_frame.1.symm.trans idle) (by decide)

theorem Step.gathered_settings (step : Step) (w : Worker) :
    (step.gathered w).settings = w.settings := by
  cases step with
  | start =>
      simp only [gathered, Worker.start]
      cases w.state <;> rfl
  | add request =>
      simp only [gathered]
      obtain ⟨-, accepted⟩ | ⟨same, -⟩ := offer_cases w request
      · rw [accepted]
        rfl
      · rw [same]
  | receive =>
      simp only [gathered, takeOver]
      cases w.queue <;> rfl
  | tick => rfl
  | flush => rfl
  | stop => exact w.close_frame.2

/-- A worker that does not run gathers nothing. -/
theorem Step.gathered_of_resting (sane : w.Sane) (resting : w.state ≠ .running) (step : Step) :
    (step.gathered w).buffer = w.buffer := by
  cases step with
  | start =>
      simp only [gathered, Worker.start]
      cases w.state <;> rfl
  | add request =>
      simp only [gathered]
      obtain ⟨running, -⟩ | ⟨same, -⟩ := offer_cases w request
      · exact absurd running resting
      · rw [same]
  | receive => simp only [gathered, takeOver, sane.resting resting]
  | tick => rfl
  | flush => rfl
  | stop =>
      simp only [gathered, Worker.close]
      cases state : w.state with
      | running => exact absurd state resting
      | idle => rfl
      | stopped => rfl

/-- Only a stop ends the run of a worker. -/
theorem Step.eq_stop_of_running {step : Step} (running : w.state = .running)
    (resting : (step.gathered w).state ≠ .running) : step = .stop := by
  cases step with
  | start => exact absurd (by simp only [gathered, Worker.start, running]) resting
  | add request =>
      simp only [gathered] at resting
      obtain ⟨-, accepted⟩ | ⟨same, -⟩ := offer_cases w request
      · rw [accepted] at resting
        exact absurd running resting
      · rw [same] at resting
        exact absurd running resting
  | receive =>
      simp only [gathered, takeOver] at resting
      cases queue : w.queue <;> rw [queue] at resting <;> exact absurd running resting
  | tick => exact absurd running resting
  | flush => exact absurd running resting
  | stop => rfl

/-- A stop that calls no sink leaves the buffer empty, if it is told to flush. -/
theorem Sane.quiet_stop (sane : w.Sane) (running : w.state = .running)
    (flushOnStop : w.settings.flushOnStop = true) (quiet : Step.handed w .stop = none) :
    w.close.buffer.requests = [] := by
  have counted : w.close.pending = w.close.buffer.requests.length := (sane.gathered .stop).counted
  by_cases blank : w.close.buffer.isEmpty = true
  · exact List.isEmpty_iff.mp blank
  · have none : w.close.pending = 0 := by
      simpa [Step.handed, Step.flushes, Step.gathered, running, w.close_frame.2, flushOnStop,
        blank] using quiet
    exact List.eq_nil_of_length_eq_zero (counted ▸ none)

end Worker

/-! ### The ledger -/

/-- A sink with the requests that it has carried out. -/
structure Accounted (σ : Type) where
  inner : σ
  applied : List DeletionRequest := []

/-- A worker over a sink, with the pairs that were accepted so far. -/
structure Ledger (σ : Type) where
  worker : Worker
  sink : Accounted σ
  accepted : List (String × String) := []

variable {σ : Type}

instance [DeletionSink σ] : DeletionSink (Accounted σ) where
  apply requests s :=
    match DeletionSink.apply requests s.inner with
    | (.ok (), inner) => (.ok (), ⟨inner, s.applied ++ requests⟩)
    | (.error fault, inner) => (.error fault, ⟨inner, s.applied⟩)

namespace Accounted

variable [DeletionSink σ] {requests : List DeletionRequest} {s after : Accounted σ}

theorem apply_of_ok (call : DeletionSink.apply requests s = (.ok (), after)) :
    DeletionSink.apply requests s.inner = (.ok (), after.inner) ∧
      after.applied = s.applied ++ requests := by
  simp only [DeletionSink.apply] at call
  split at call
  · next inner answer =>
      cases call
      exact ⟨answer, rfl⟩
  · cases call

theorem apply_of_error {fault : Fault}
    (call : DeletionSink.apply requests s = (.error fault, after)) :
    DeletionSink.apply requests s.inner = (.error fault, after.inner) ∧
      after.applied = s.applied := by
  simp only [DeletionSink.apply] at call
  split at call
  · cases call
  · next inner answer =>
      cases call
      exact ⟨answer, rfl⟩

end Accounted

namespace Ledger

open Worker (Step)

/-- A worker that was not started yet, over a sink. -/
def opened (settings : WorkerSettings) (sink : σ) : Ledger σ :=
  { worker := { settings := settings }, sink := ⟨sink, []⟩ }

/-- Nothing is lost and nothing made up. -/
structure Conserved (l : Ledger σ) : Prop where
  pairs : ∀ pair, pair ∈ l.accepted ↔
    (pair ∈ l.worker.queued ∨ pair ∈ l.worker.buffered) ∨
      pair ∈ l.sink.applied.flatMap DeletionRequest.pairs
  pending : l.worker.pending = l.worker.buffer.requests.length
  resting : l.worker.state ≠ .running → l.worker.queue = []
  fresh : l.worker.state = .idle → l.accepted = []

variable {l : Ledger σ}

theorem Conserved.worker_sane (conserved : l.Conserved) : l.worker.Sane :=
  ⟨conserved.pending, conserved.resting⟩

theorem conserved_opened (settings : WorkerSettings) (sink : σ) :
    (opened settings sink).Conserved where
  pairs pair := by simp [opened, Worker.queued, Worker.buffered]
  pending := rfl
  resting _ := rfl
  fresh _ := rfl

/-- The ledger with what a step takes over, before it calls the sink. -/
def gathered (l : Ledger σ) (step : Step) : Ledger σ :=
  { l with worker := step.gathered l.worker, accepted := l.accepted ++ step.accepts l.worker }

theorem Conserved.gathered (conserved : l.Conserved) (step : Step) :
    (l.gathered step).Conserved := by
  have sane := conserved.worker_sane.gathered step
  refine ⟨fun pair => ?_, sane.counted, sane.resting, fun idle => ?_⟩
  · simp only [Ledger.gathered, List.mem_append, Step.mem_gathered conserved.worker_sane step,
      conserved.pairs pair]
    exact or_right_comm
  · obtain ⟨before, nothing⟩ := Step.of_gathered_idle idle
    simp only [Ledger.gathered, nothing, List.append_nil]
    exact conserved.fresh before

/-! ### Steps of the ledger -/

variable [DeletionSink σ]

/-- The ledger after a step. -/
def next (l : Ledger σ) (step : Step) : Ledger σ :=
  { worker := (step.perform l.worker l.sink).1
    sink := (step.perform l.worker l.sink).2
    accepted := l.accepted ++ step.accepts l.worker }

/-- What a step owes its caller. -/
structure Reliable (l : Ledger σ) (step : Step) : Prop where
  /-- The sink is called once, with what the worker has gathered, or not at all. -/
  called : (l.next step).sink.inner =
    match step.handed l.worker with
    | some requests => (DeletionSink.apply requests l.sink.inner).2
    | none => l.sink.inner
  /-- A call that fails leaves the buffer as it was handed over. -/
  kept : ∀ requests fault, step.handed l.worker = some requests →
    (DeletionSink.apply requests l.sink.inner).1 = .error fault →
      (l.next step).worker.buffer.requests = requests
  /-- A stop empties the queue. -/
  emptied : step = .stop → (l.next step).worker.queue = []
  /-- If the last flush goes well, a stop leaves nothing that was accepted behind. -/
  finished : step = .stop → l.worker.state ≠ .stopped → l.worker.settings.flushOnStop = true →
    (∀ requests, step.handed l.worker = some requests →
      (DeletionSink.apply requests l.sink.inner).1 = .ok ()) →
      ∀ pair, pair ∈ (l.next step).accepted ↔
        pair ∈ (l.next step).sink.applied.flatMap DeletionRequest.pairs

theorem outcome (l : Ledger σ) (step : Step) :
    Worker.Performed step l.worker l.sink ((l.next step).worker, (l.next step).sink) :=
  Worker.performed step l.worker l.sink

theorem Conserved.next (conserved : l.Conserved) (step : Step) : (l.next step).Conserved := by
  have gathered := conserved.gathered step
  unfold Ledger.next
  have outcome := Worker.performed step l.worker l.sink
  generalize step.perform l.worker l.sink = result at outcome ⊢
  cases outcome with
  | quiet _ backingOff =>
      exact ⟨gathered.pairs, gathered.pending, gathered.resting, gathered.fresh⟩
  | @done requests after handed call backingOff =>
      refine ⟨fun pair => ?_, rfl, gathered.resting, gathered.fresh⟩
      have applied := (Accounted.apply_of_ok call).2
      have before := gathered.pairs pair
      simp only [Ledger.gathered, Worker.buffered, Step.handed_eq handed] at before
      simp only [before, applied, Worker.queued, Worker.buffered, List.flatMap_append,
        List.flatMap_nil, List.mem_append, List.not_mem_nil, or_false]
      rw [or_assoc, or_comm (a := pair ∈ requests.flatMap _)]
  | failed handed call backingOff =>
      have applied := (Accounted.apply_of_error call).2
      refine ⟨fun pair => ?_, gathered.pending, gathered.resting, gathered.fresh⟩
      rw [applied]
      exact gathered.pairs pair

theorem next_called (l : Ledger σ) (step : Step) :
    (l.next step).sink.inner =
      match step.handed l.worker with
      | some requests => (DeletionSink.apply requests l.sink.inner).2
      | none => l.sink.inner := by
  have outcome := l.outcome step
  generalize l.next step = after at outcome ⊢
  obtain ⟨worker, sink, accepted⟩ := after
  cases outcome with
  | quiet handed => rw [handed]
  | done handed call => simp only [handed, (Accounted.apply_of_ok call).1]
  | failed handed call => simp only [handed, (Accounted.apply_of_error call).1]

theorem next_kept {step : Step} {requests : List DeletionRequest} {fault : Fault}
    (handed : step.handed l.worker = some requests)
    (failure : (DeletionSink.apply requests l.sink.inner).1 = .error fault) :
    (l.next step).worker.buffer.requests = requests := by
  have outcome := l.outcome step
  generalize l.next step = after at outcome ⊢
  obtain ⟨worker, sink, accepted⟩ := after
  cases outcome with
  | quiet quiet => exact nomatch quiet.symm.trans handed
  | done handed' call =>
      cases handed.symm.trans handed'
      rw [(Accounted.apply_of_ok call).1] at failure
      nomatch failure
  | failed => exact Step.handed_eq handed

theorem Conserved.stop_empties (conserved : l.Conserved) :
    (l.next .stop).worker.queue = [] := by
  have closed : l.worker.close.queue = [] :=
    (conserved.worker_sane.gathered .stop).resting (by
      simp [Step.gathered, l.worker.close_frame.1])
  have outcome := l.outcome .stop
  generalize l.next .stop = after at outcome ⊢
  obtain ⟨worker, sink, accepted⟩ := after
  cases outcome <;> exact closed

/-- After a last flush that goes well nothing is left in the buffer. -/
theorem Conserved.last_flush (conserved : l.Conserved) (running : l.worker.state = .running)
    (flushOnStop : l.worker.settings.flushOnStop = true)
    (good : ∀ requests, Step.handed l.worker .stop = some requests →
      (DeletionSink.apply requests l.sink.inner).1 = .ok ()) :
    (l.next .stop).worker.buffer.requests = [] := by
  have outcome := l.outcome .stop
  generalize l.next .stop = after at outcome ⊢
  obtain ⟨worker, sink, accepted⟩ := after
  cases outcome with
  | quiet quiet => exact conserved.worker_sane.quiet_stop running flushOnStop quiet
  | done => rfl
  | failed handed call =>
      have answer := good _ handed
      rw [(Accounted.apply_of_error call).1] at answer
      nomatch answer

theorem Conserved.reliable (conserved : l.Conserved) (step : Step) : l.Reliable step where
  called := l.next_called step
  kept _ _ := next_kept
  emptied := by
    rintro rfl
    exact conserved.stop_empties
  finished := by
    rintro rfl alive flushOnStop good pair
    have pairs := (conserved.next .stop).pairs pair
    cases state : l.worker.state with
    | stopped => exact absurd state alive
    | running =>
        rw [pairs, Worker.queued, Worker.buffered, conserved.stop_empties,
          conserved.last_flush state flushOnStop good]
        simp
    | idle =>
        -- Nothing was ever accepted, so by conservation nothing was carried out.
        have nothing : (l.next .stop).accepted = [] := by
          simp [Ledger.next, Step.accepts, conserved.fresh state]
        rw [nothing] at pairs ⊢
        simp only [List.not_mem_nil, false_iff, not_or] at pairs ⊢
        exact pairs.2

/-- **Deletion requests are conserved**, whatever the settings, the sink and its failures, and the
order of the steps. -/
theorem conserved_throughout (settings : WorkerSettings) (sink : σ) (steps : List Step) :
    Throughout next Conserved (opened settings sink) steps ∧
      Along next Reliable (opened settings sink) steps := by
  have along : Along next Reliable (opened settings sink) steps :=
    along_of_step (fun _ step conserved => conserved.next step)
      (fun _ step conserved => conserved.reliable step) (conserved_opened settings sink)
  exact ⟨throughout_of_step (fun _ step conserved _ => conserved.next step)
    (conserved_opened settings sink) along, along⟩

end Ledger

end ShortLinks
