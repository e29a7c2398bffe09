import ShortLinks.Proofs.Deletion.BackOff

/-!
The moves that steps of the worker are made of. What a step of a run does at once, the loop and the
callers do in several moves, between which others may come: the loop takes a request over and then
waits for its turn to flush, and after the end it takes over one request after the other.

* `Move`, `Machine` — the moves, and a worker at its sink that may be about to flush.
* `perform_moves`, `accepts_moves`, `run_moves` — a step of a run is some moves in a row, and
  accepts what they accept; and so a run of steps is a sequence of moves.
* `Machine.Conserved`, `Machine.Paced` — what a run of steps conserves, and the bound on the buffer,
  hold along every sequence of moves; so no order of callers and loop can break them.
* `Machine.Waiting.idle` — a loop that is backing off, and not about to flush, makes no flush of its
  own before the clock ticks.
-/

namespace ShortLinks

namespace Worker

/-- What a worker does without letting anybody in between. -/
inductive Move where
  | start
  /-- A request goes into the queue. -/
  | put (request : DeletionRequest)
  /-- The loop takes over the first request of the queue. If enough is gathered it will flush. -/
  | takeOver
  /-- After the end it takes requests over and does no more. -/
  | drain
  /-- The clock ticks, and the loop will flush. -/
  | tick
  /-- The loop flushes, if it was about to. -/
  | own
  /-- A flush for a caller, or the last one. -/
  | flush
  /-- The end comes: requests are refused from now on. -/
  | halt

/-- The pairs that a move accepts. -/
def Move.accepts : Move → List (String × String)
  | .put request => request.pairs
  | _ => []

/-- A worker at its sink. -/
structure Machine (σ : Type) where
  worker : Worker
  sink : σ
  /-- Is the loop about to flush? -/
  wanted : Bool := false

variable {σ : Type} [DeletionSink σ] {w : Worker} {pair : String × String}

/-- The machine after a move. -/
def Machine.next (m : Machine σ) : Move → Machine σ
  | .start => { m with worker := m.worker.start.2 }
  | .put request => { m with worker := { m.worker with queue := m.worker.queue ++ [request] } }
  | .takeOver =>
      { m with worker := m.worker.takeOver, wanted := m.wanted || Step.flushes m.worker .receive }
  | .drain => if m.worker.state = .stopped then { m with worker := m.worker.takeOver } else m
  | .tick => { m with wanted := true }
  | .own =>
      if m.wanted then
        ⟨(m.worker.ownFlush m.sink).1, (m.worker.ownFlush m.sink).2, false⟩
      else m
  | .flush => ⟨(m.worker.flush m.sink).2.1, (m.worker.flush m.sink).2.2, m.wanted⟩
  | .halt => { m with worker := { m.worker with state := .stopped } }

/-! ### Steps as moves -/

/-- The moves of a step. -/
def Step.moves (w : Worker) : Step → List Move
  | .start => [.start]
  | .add request =>
      match w.offer request with
      | .accepted _ => [.put request]
      | _ => []
  | .receive => [.takeOver, .own]
  | .tick => if w.state = .running then [.tick, .own] else []
  | .flush => [.flush]
  | .stop =>
      match w.state with
      | .stopped => []
      | .idle => [.halt]
      | .running =>
          .halt :: List.replicate w.queue.length .drain ++
            if Step.flushes w .stop then [.flush] else []

theorem foldl_takeIn_queue (requests queue : List DeletionRequest) (w : Worker) :
    requests.foldl takeIn { w with queue := queue }
      = { requests.foldl takeIn w with queue := queue } := by
  induction requests generalizing w with
  | nil => rfl
  | cons request rest ih => exact ih (w.takeIn request)

/-- Taking requests over one by one takes over the queue. -/
theorem foldl_drain (stopped : w.state = .stopped) (sink : σ) (wanted : Bool) :
    (List.replicate w.queue.length Move.drain).foldl Machine.next ⟨w, sink, wanted⟩
      = ⟨w.drain, sink, wanted⟩ := by
  induction queue : w.queue generalizing w with
  | nil =>
      obtain ⟨settings, state, _, buffer, pending, backingOff⟩ := w
      cases queue
      rfl
  | cons request rest ih =>
      have taken : w.takeOver = { w.takeIn request with queue := rest } := by
        rw [takeOver, queue]
        rfl
      have first : Machine.next ⟨w, sink, wanted⟩ .drain = ⟨w.takeOver, sink, wanted⟩ :=
        if_pos stopped
      have later := ih (w := { w.takeIn request with queue := rest }) stopped rfl
      rw [List.length_cons, List.replicate_succ, List.foldl_cons, first, taken, later, drain, drain,
        queue, foldl_takeIn_queue]
      rfl

/-- **A step of a run is some moves in a row.** -/
theorem perform_moves (step : Step) (w : Worker) (sink : σ) :
    (step.moves w).foldl Machine.next ⟨w, sink, false⟩
      = ⟨(step.perform w sink).1, (step.perform w sink).2, false⟩ := by
  cases step with
  | start => rfl
  | add request =>
      simp only [Step.moves, Step.perform, offer]
      by_cases blank : request.keys.isEmpty = true
      · simp [blank, Offer.after]
      by_cases running : w.state = .running
      · by_cases room : w.queue.length < w.capacity <;>
          simp [blank, running, room, Offer.after, Machine.next]
      · simp [blank, running, Offer.after]
  | receive =>
      simp only [Step.moves, Step.perform, receive_eq, List.foldl_cons, List.foldl_nil,
        Machine.next, Bool.false_or]
      cases Step.flushes w .receive <;> rfl
  | tick =>
      simp only [Step.moves, Step.perform, tick]
      split <;> rfl
  | flush => rfl
  | stop =>
      rw [Step.perform, stop_eq]
      cases state : w.state with
      | stopped => simp [Step.moves, Step.flushes, state, close]
      | idle => simp [Step.moves, Step.flushes, state, close, Machine.next]
      | running =>
          have closed : w.close = { w with state := .stopped }.drain := by rw [close, state]
          have drained := foldl_drain (w := { w with state := .stopped }) rfl sink false
          simp only [Step.moves, state, List.cons_append, List.foldl_cons, List.foldl_append,
            Machine.next, drained, ← closed]
          split <;> rfl

/-- The moves of a step accept what the step accepts. -/
theorem accepts_moves (step : Step) (w : Worker) :
    (step.moves w).flatMap Move.accepts = step.accepts w := by
  cases step with
  | start => rfl
  | add request =>
      simp only [Step.moves, Step.accepts, offer]
      by_cases blank : request.keys.isEmpty = true
      · simp [blank, Offer.isOk, DeletionRequest.pairs_eq_nil_of_isEmpty blank]
      by_cases running : w.state = .running
      · by_cases room : w.queue.length < w.capacity <;>
          simp [blank, running, room, Offer.isOk, Move.accepts]
      · simp [blank, running, Offer.isOk]
  | receive => rfl
  | tick =>
      simp only [Step.moves, Step.accepts]
      split <;> rfl
  | flush => rfl
  | stop =>
      simp only [Step.moves, Step.accepts]
      cases w.state with
      | stopped => rfl
      | idle => rfl
      | running => split <;> simp [Move.accepts]

/-- So is a run of them. -/
theorem run_moves (steps : List Step) (w : Worker) (sink : σ) :
    ∃ moves : List Move, moves.foldl Machine.next ⟨w, sink, false⟩
      = (let (w, sink) := steps.foldl (fun s step => step.perform s.1 s.2) (w, sink)
        ⟨w, sink, false⟩) := by
  induction steps generalizing w sink with
  | nil => exact ⟨[], rfl⟩
  | cons step rest ih =>
      obtain ⟨moves, later⟩ := ih (step.perform w sink).1 (step.perform w sink).2
      refine ⟨step.moves w ++ moves, ?_⟩
      rw [List.foldl_append, perform_moves, later]
      rfl

/-! ### What moves conserve -/

theorem takeOver_counted (counted : w.pending = w.buffer.requests.length) :
    w.takeOver.pending = w.takeOver.buffer.requests.length := by
  unfold takeOver
  split
  · exact counted
  · rfl

theorem takeOver_frame (w : Worker) :
    w.takeOver.state = w.state ∧ w.takeOver.settings = w.settings ∧
      w.takeOver.backingOff = w.backingOff := by
  unfold takeOver
  split <;> exact ⟨rfl, rfl, rfl⟩

theorem start_frame (w : Worker) :
    w.start.2.queue = w.queue ∧ w.start.2.buffer = w.buffer ∧ w.start.2.pending = w.pending ∧
      w.start.2.settings = w.settings ∧ w.start.2.backingOff = w.backingOff := by
  unfold start
  split <;> exact ⟨rfl, rfl, rfl, rfl, rfl⟩

namespace Machine

/-- Nothing is lost and nothing made up, if these are the pairs that were accepted. -/
structure Conserved (accepted : List (String × String)) (m : Machine (Accounted σ)) : Prop where
  pairs : ∀ pair, pair ∈ accepted ↔
    (pair ∈ m.worker.queued ∨ pair ∈ m.worker.buffered) ∨
      pair ∈ m.sink.applied.flatMap DeletionRequest.pairs
  pending : m.worker.pending = m.worker.buffer.requests.length

variable {accepted : List (String × String)} {m : Machine (Accounted σ)}

omit [DeletionSink σ] in
theorem conserved_opened (settings : WorkerSettings) (sink : σ) :
    Conserved [] (Machine.mk { settings := settings } (Accounted.mk sink []) false) where
  pairs pair := by simp [queued, buffered]
  pending := rfl

omit [DeletionSink σ] in
theorem Conserved.takeOver (conserved : m.Conserved accepted) (wanted : Bool) :
    Conserved accepted ⟨m.worker.takeOver, m.sink, wanted⟩ where
  pairs pair := by rw [conserved.pairs pair, mem_takeOver]
  pending := takeOver_counted conserved.pending

/-- What a flush carries out it takes out of the buffer, and else it leaves all as it was. -/
theorem Conserved.flush (conserved : m.Conserved accepted) (backingOff wanted : Bool) :
    Conserved accepted
      ⟨{ (m.worker.flush m.sink).2.1 with backingOff := backingOff },
        (m.worker.flush m.sink).2.2, wanted⟩ := by
  have outcome := flushed m.worker m.sink
  generalize m.worker.flush m.sink = result at outcome ⊢
  cases outcome with
  | idle => exact ⟨conserved.pairs, conserved.pending⟩
  | done filled call =>
      refine ⟨fun pair => ?_, rfl⟩
      rw [conserved.pairs pair, (Accounted.apply_of_ok call).2, List.flatMap_append,
        List.mem_append, or_comm (a := pair ∈ m.sink.applied.flatMap _), ← or_assoc]
      simp [queued, buffered]
  | failed filled call =>
      refine ⟨fun pair => ?_, conserved.pending⟩
      rw [(Accounted.apply_of_error call).2]
      exact conserved.pairs pair

/-- **A move conserves** what was accepted before it together with what it accepts. -/
theorem Conserved.next (conserved : m.Conserved accepted) (move : Move) :
    (m.next move).Conserved (accepted ++ move.accepts) := by
  have still {after : Machine (Accounted σ)} (kept : after.Conserved accepted) :
      after.Conserved (accepted ++ []) := by rwa [List.append_nil]
  cases move with
  | put request =>
      refine ⟨fun pair => ?_, conserved.pending⟩
      simp only [Machine.next, Move.accepts, queued, List.mem_append, conserved.pairs pair,
        List.flatMap_append, List.flatMap_singleton]
      rw [or_right_comm, or_right_comm (b := pair ∈ m.worker.buffered)]
      rfl
  | start =>
      obtain ⟨queue, buffer, pending, -, -⟩ := m.worker.start_frame
      refine still ⟨fun pair => ?_, ?_⟩
      · simp only [Machine.next, queued, buffered, queue, buffer]
        exact conserved.pairs pair
      · simp only [Machine.next, pending, buffer]
        exact conserved.pending
  | takeOver => exact still (conserved.takeOver _)
  | drain =>
      rw [Machine.next]
      split
      · exact still (conserved.takeOver m.wanted)
      · exact still conserved
  | tick => exact still ⟨conserved.pairs, conserved.pending⟩
  | own =>
      rw [Machine.next]
      split
      · exact still (conserved.flush _ false)
      · exact still conserved
  | flush => exact still (conserved.flush _ m.wanted)
  | halt => exact still ⟨conserved.pairs, conserved.pending⟩

theorem Conserved.run (conserved : m.Conserved accepted) (moves : List Move) :
    (moves.foldl Machine.next m).Conserved (accepted ++ moves.flatMap Move.accepts) := by
  induction moves generalizing m accepted with
  | nil => simpa using conserved
  | cons move rest ih =>
      rw [List.flatMap_cons, ← List.append_assoc]
      exact ih (conserved.next move)

/-! ### When the loop flushes -/

variable {m : Machine σ}

/-- Unless the loop is about to flush, the bound on the buffer holds. -/
def Paced (m : Machine σ) : Prop := m.wanted = false → m.worker.Paced

theorem next_settings (m : Machine σ) (move : Move) :
    (m.next move).worker.settings = m.worker.settings := by
  cases move with
  | start => exact m.worker.start_frame.2.2.2.1
  | put => rfl
  | takeOver => exact m.worker.takeOver_frame.2.1
  | drain =>
      rw [Machine.next]
      split
      · exact m.worker.takeOver_frame.2.1
      · rfl
  | tick => rfl
  | own =>
      rw [Machine.next]
      split
      · exact m.worker.ownFlush_settings m.sink
      · rfl
  | flush =>
      rw [Machine.next]
      obtain same | cleared := m.worker.flush_frame m.sink
      · rw [same]
      · rw [cleared]
  | halt => rfl

/-- **No move lets the buffer grow to the threshold**, but for a loop that is about to flush. -/
theorem Paced.next (paced : m.Paced) (threshold : 1 ≤ m.worker.settings.maxPending)
    (move : Move) : (m.next move).Paced := by
  cases move with
  | start =>
      intro calm
      have started : (Step.start.perform m.worker m.sink).1.Paced :=
        (paced calm).perform threshold _
      exact started
  | put => exact paced
  | takeOver =>
      intro calm
      obtain ⟨before, quiet⟩ := Bool.or_eq_false_iff.mp calm
      have received : (m.worker.receive m.sink).1.Paced := (paced before).receive threshold
      rw [receive_eq, quiet] at received
      exact received
  | drain =>
      rw [Machine.next]
      split
      · next stopped =>
          exact fun _ alive => absurd (m.worker.takeOver_frame.1.trans stopped) alive
      · exact paced
  | tick => exact fun calm => nomatch calm
  | own =>
      rw [Machine.next]
      split
      · exact fun _ => paced_ownFlush threshold
      · exact paced
  | flush => exact fun calm => (paced calm).flush threshold
  | halt => exact fun _ alive => absurd rfl alive

theorem Paced.run (paced : m.Paced) (threshold : 1 ≤ m.worker.settings.maxPending)
    (moves : List Move) : (moves.foldl Machine.next m).Paced := by
  induction moves generalizing m with
  | nil => exact paced
  | cons move rest ih =>
      exact ih (paced.next threshold move) ((m.next_settings move).symm ▸ threshold)

/-- The loop is backing off, and not about to flush. -/
structure Waiting (m : Machine σ) : Prop where
  backingOff : m.worker.backingOff = true
  calm : m.wanted = false

theorem Waiting.own (waiting : m.Waiting) : m.next .own = m := by
  rw [Machine.next, if_neg (by simp [waiting.calm])]

/-- Only the clock ends the wait. -/
theorem Waiting.next (waiting : m.Waiting) {move : Move} (other : move ≠ .tick) :
    (m.next move).Waiting := by
  obtain ⟨backingOff, calm⟩ := waiting
  cases move with
  | start => exact ⟨m.worker.start_frame.2.2.2.2.trans backingOff, calm⟩
  | put => exact ⟨backingOff, calm⟩
  | takeOver =>
      refine ⟨m.worker.takeOver_frame.2.2.trans backingOff, ?_⟩
      simp [Machine.next, calm, flushes_receive_of_backingOff backingOff]
  | drain =>
      rw [Machine.next]
      split
      · exact ⟨m.worker.takeOver_frame.2.2.trans backingOff, calm⟩
      · exact ⟨backingOff, calm⟩
  | tick => exact absurd rfl other
  | own =>
      rw [Waiting.own ⟨backingOff, calm⟩]
      exact ⟨backingOff, calm⟩
  | flush => exact ⟨(flush_backingOff m.worker m.sink).trans backingOff, calm⟩
  | halt => exact ⟨backingOff, calm⟩

theorem Waiting.run (waiting : m.Waiting) {moves : List Move} (before : Move.tick ∉ moves) :
    (moves.foldl Machine.next m).Waiting := by
  induction moves generalizing m with
  | nil => exact waiting
  | cons move rest ih =>
      rw [List.mem_cons, not_or] at before
      exact ih (waiting.next (Ne.symm before.1)) before.2

/-- **A loop that is backing off makes no flush of its own before the clock ticks.** -/
theorem Waiting.idle (waiting : m.Waiting) {moves : List Move} (before : Move.tick ∉ moves) :
    Along Machine.next (fun m move => move = .own → m.next move = m) m moves := by
  induction moves generalizing m with
  | nil => exact trivial
  | cons move rest ih =>
      rw [List.mem_cons, not_or] at before
      refine ⟨?_, ih (waiting.next (Ne.symm before.1)) before.2⟩
      rintro rfl
      exact waiting.own

end Machine

end Worker

end ShortLinks
