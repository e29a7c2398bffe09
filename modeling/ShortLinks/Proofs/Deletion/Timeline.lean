import Mathlib.Data.List.Forall2
import ShortLinks.Deletion.Timeline
import ShortLinks.Proofs.Deletion.Moves

/-!
The worker in time makes the moves of the worker, and no others.

* `machine` — the worker of a moment at its sink; a request that the loop has in hand counts as the
  first of the queue.
* `Follows`, `Follows.waits` — moves lead from one moment to a later one, and among them is a tick
  only if one was due; until then a loop that is backing off makes no flush of its own.
* `loopStep_moved`, `callerStep_moved`, `beginRequest_moved` — one lemma for each step of a moment.
  The moves of a caller's step accept what the caller is told in it.
* `Story` — so it is for moments, for the clock, and for all that begins together.
* `run_conserved` — whatever is asked for side by side, the worker in time conserves what callers
  were told to be accepted, and keeps to the bound on the buffer.
-/

namespace ShortLinks

namespace Timeline

open Worker (Machine Move)

variable {σ : Type}

/-! ### Moments as machines -/

/-- The request that the loop has taken out of the queue and not yet taken over. -/
@[simp] def Phase.inHand : Phase → List DeletionRequest
  | .takingIn request _ => [request]
  | _ => []

/-- Is the loop about to flush, for another reason than the end? -/
@[simp] def Phase.wants : Phase → Bool
  | .flushing .due _ => true
  | _ => false

/-- Has the loop seen the end? -/
@[simp] def Phase.isEnding : Phase → Bool
  | .takingIn _ ending => ending
  | .flushing reason _ => reason = .last
  | .draining | .ended => true
  | .absent | .selecting => false

/-- Is the queue taken over to the last? -/
@[simp] def Phase.isLast : Phase → Bool
  | .flushing reason _ => reason = .last
  | .ended => true
  | _ => false

/-- The worker of a moment at its sink. -/
def machine (t : Timeline σ) : Machine σ :=
  ⟨{ t.worker with queue := t.phase.inHand ++ t.worker.queue }, t.sink, t.phase.wants⟩

/-- The time before which the loop does not take a tick. -/
def due (t : Timeline σ) : Nat :=
  match t.phase with
  | .absent => 0
  | _ => t.nextTick

theorem due_le_nextTick (t : Timeline σ) : t.due ≤ t.nextTick := by
  unfold due
  split
  · exact Nat.zero_le _
  · exact Nat.le_refl _

theorem due_of_absent {t : Timeline σ} (absent : t.phase = .absent) : t.due = 0 := by
  rw [due, absent]

/-- What holds at every moment. -/
structure Sound (t : Timeline σ) : Prop where
  cancelled : t.cancelled = true → t.worker.state = .stopped
  closed : t.closed = true → t.worker.state = .stopped
  ending : t.phase.isEnding = true → t.closed = true
  /-- Once the loop has taken over the last request, the queue is and stays empty. -/
  emptied : t.phase.isLast = true → t.worker.queue = []

theorem Sound.going {t : Timeline σ} (cancelled : t.cancelled = true → t.worker.state = .stopped)
    (closed : t.closed = true → t.worker.state = .stopped) (going : t.phase.isEnding = false)
    (early : t.phase.isLast = false) : t.Sound :=
  ⟨cancelled, closed, fun ending => absurd (going.symm.trans ending) Bool.false_ne_true,
    fun last => absurd (early.symm.trans last) Bool.false_ne_true⟩

theorem Sound.closing {t : Timeline σ} (stopped : t.worker.state = .stopped)
    (closed : t.closed = true) (emptied : t.phase.isLast = true → t.worker.queue = []) : t.Sound :=
  ⟨fun _ => stopped, fun _ => stopped, fun _ => closed, emptied⟩

variable [DeletionSink σ] {t : Timeline σ}

/-- Some moves lead from one moment to the other and accept these pairs, and a tick among them was
due. -/
structure Follows (t after : Timeline σ) (accepted : List (String × String)) : Prop where
  moves : ∃ moves : List Move, after.machine = moves.foldl Machine.next t.machine ∧
    moves.flatMap Move.accepts = accepted ∧ (Move.tick ∈ moves → t.due ≤ after.now)
  now_le : t.now ≤ after.now
  due_le : t.due ≤ after.due

theorem Follows.refl (t : Timeline σ) : t.Follows t [] :=
  ⟨⟨[], rfl, rfl, by simp⟩, Nat.le_refl _, Nat.le_refl _⟩

/-- Nothing moves while the clock stands. -/
theorem Follows.still {after : Timeline σ} (same : after.machine = t.machine)
    (now : t.now = after.now) (due_le : t.due ≤ after.due) : t.Follows after [] :=
  ⟨⟨[], same, rfl, by simp⟩, Nat.le_of_eq now, due_le⟩

/-- One move while the clock stands. -/
theorem Follows.single {after : Timeline σ} (move : Move)
    (next : after.machine = t.machine.next move) (now : t.now = after.now)
    (due_le : t.due ≤ after.due) (other : move ≠ .tick) : t.Follows after move.accepts :=
  ⟨⟨[move], next, List.flatMap_singleton ..,
    fun tick => absurd (List.mem_singleton.mp tick).symm other⟩, Nat.le_of_eq now, due_le⟩

theorem Follows.trans {middle after : Timeline σ} {first later : List (String × String)}
    (one : t.Follows middle first) (two : middle.Follows after later) :
    t.Follows after (first ++ later) := by
  obtain ⟨moves, run, rfl, early⟩ := one.moves
  obtain ⟨more, rerun, rfl, late⟩ := two.moves
  refine ⟨⟨moves ++ more, by rw [List.foldl_append, ← run, rerun], List.flatMap_append, ?_⟩,
    Nat.le_trans one.now_le two.now_le, Nat.le_trans one.due_le two.due_le⟩
  intro tick
  rcases List.mem_append.mp tick with tick | tick
  · exact Nat.le_trans (early tick) two.now_le
  · exact Nat.le_trans one.due_le (late tick)

/-- **A loop that is backing off** goes on so, without a flush of its own, until its tick is due. -/
theorem Follows.waits {after : Timeline σ} {accepted : List (String × String)}
    (follows : t.Follows after accepted) (waiting : t.machine.Waiting) (early : after.now < t.due) :
    after.machine.Waiting ∧ ∃ moves, after.machine = moves.foldl Machine.next t.machine ∧
      Along Machine.next (fun m move => move = .own → m.next move = m) t.machine moves := by
  obtain ⟨moves, run, -, clock⟩ := follows.moves
  have before : Move.tick ∉ moves := fun tick => absurd (clock tick) (Nat.not_le.mpr early)
  exact ⟨run ▸ waiting.run before, moves, run, waiting.idle before⟩

/-! ### The lock and the sink -/

omit [DeletionSink σ] in
/-- Asking for the buffer changes only who has it or waits for it. -/
theorem acquire_eq (t : Timeline σ) (party : Party) :
    ∃ holder waiting, (t.acquire party).1 =
      { t with holder := holder, waitingForBuffer := waiting } := by
  unfold acquire
  split
  · exact ⟨_, _, rfl⟩
  · split
    · exact ⟨_, _, rfl⟩
    split
    · exact ⟨_, _, rfl⟩
    · exact ⟨_, _, rfl⟩

/-- The moment with the buffer carried out. -/
def carriedOut (t : Timeline σ) : Timeline σ :=
  { t with worker := (t.worker.flush t.sink).2.1, sink := (t.worker.flush t.sink).2.2 }

/-- A flush that has the buffer waits for the sink, or is over at once. -/
theorem beginFlush_cases (t : Timeline σ) :
    (∃ calls ready, t.beginFlush = .calling ready { t with calls := calls }) ∨
      ∃ calls, t.beginFlush
        = .over (t.worker.flush t.sink).1 { t.carriedOut with calls := calls }.release := by
  unfold beginFlush
  split
  · next blank =>
      refine .inr ⟨t.calls, ?_⟩
      rw [carriedOut, Worker.flush, if_pos blank]
  · dsimp only
    split
    · exact .inr ⟨_, rfl⟩
    · exact .inl ⟨_, _, rfl⟩

theorem finishCall_eq (t : Timeline σ) :
    t.finishCall = ((t.worker.flush t.sink).1, t.carriedOut.release) := rfl

/-- A flush does not look at the queue. -/
theorem flush_queue (w : Worker) (sink : σ) (queue : List DeletionRequest) :
    { w with queue := queue }.flush sink
      = ((w.flush sink).1, { (w.flush sink).2.1 with queue := queue }, (w.flush sink).2.2) := by
  unfold Worker.flush
  split
  · rfl
  · dsimp only [Worker.afterFlush]
    split <;> rfl

theorem carriedOut_machine (t : Timeline σ) : t.carriedOut.machine = t.machine.next .flush := by
  simp only [machine, carriedOut, Machine.next, flush_queue]
  obtain same | cleared := t.worker.flush_frame t.sink
  · rw [same]
  · rw [cleared]

theorem carriedOut_frame (t : Timeline σ) :
    t.carriedOut.worker.state = t.worker.state ∧ t.carriedOut.worker.queue = t.worker.queue := by
  unfold carriedOut
  obtain same | cleared := t.worker.flush_frame t.sink
  · rw [same]
    exact ⟨rfl, rfl⟩
  · rw [cleared]
    exact ⟨rfl, rfl⟩

theorem Sound.carriedOut (sound : t.Sound) : t.carriedOut.Sound := by
  obtain ⟨state, queue⟩ := t.carriedOut_frame
  exact ⟨fun cancelled => state.trans (sound.cancelled cancelled),
    fun closed => state.trans (sound.closed closed), sound.ending,
    fun last => queue.trans (sound.emptied last)⟩

/-! ### Steps of the loop -/

omit [DeletionSink σ] in
/-- The first request of the queue is in nobody's hands, and the rest stays. -/
theorem dequeue_cases (t : Timeline σ) :
    (t.worker.queue = [] ∧ t.dequeue = none) ∨
      ∃ request rest granted waiting, t.worker.queue = request :: rest ∧
        t.dequeue = some (request,
          { t with
            worker := { t.worker with queue := rest }
            granted := granted
            waitingForRoom := waiting }) := by
  unfold dequeue
  cases queue : t.worker.queue with
  | nil => exact .inl ⟨rfl, rfl⟩
  | cons request rest => exact .inr ⟨request, rest, _, _, rfl, rfl⟩

/-- Moves that accept nothing lead from one moment to the other. -/
structure Moved (t after : Timeline σ) : Prop where
  sound : after.Sound
  callers : after.callers = t.callers
  follows : t.Follows after []

theorem Moved.refl (sound : t.Sound) : t.Moved t := ⟨sound, rfl, .refl t⟩

/-- Who waits for what, and what has been called, is no matter of the worker. -/
theorem waiting_moved (sound : t.Sound) (holder : Option Party) (waitingForBuffer : List Party)
    (waitingForRoom granted : List Nat) (calls : List SinkCall) :
    t.Moved { t with holder, waitingForBuffer, waitingForRoom, granted, calls } :=
  ⟨⟨sound.cancelled, sound.closed, sound.ending, sound.emptied⟩, rfl,
    .still rfl rfl (Nat.le_refl _)⟩

/-- A flush that is over, for a caller. -/
theorem carriedOut_moved (sound : t.Sound) (calls : List SinkCall) :
    t.Moved { t.carriedOut with calls := calls }.release := by
  have after := sound.carriedOut
  exact ⟨⟨after.cancelled, after.closed, after.ending, after.emptied⟩, rfl,
    .single .flush t.carriedOut_machine rfl (Nat.le_refl _) (by simp)⟩

theorem Moved.trans {middle after : Timeline σ} (one : t.Moved middle)
    (two : middle.Moved after) : t.Moved after :=
  ⟨two.sound, two.callers.trans one.callers, one.follows.trans two.follows⟩

omit [DeletionSink σ] in
/-- The request in hand is the first that the machine takes over. -/
theorem takeOver_machine {request : DeletionRequest} {ending : Bool}
    (phase : t.phase = .takingIn request ending) :
    t.machine.worker.takeOver = t.worker.takeIn request ∧
      Worker.Step.flushes t.machine.worker .receive = (t.worker.takeIn request).isDue := by
  simp only [machine, phase, Phase.inHand]
  exact ⟨rfl, rfl⟩

/-- The end of a flush of the loop. -/
theorem afterLoopFlush_moved (sound : t.Sound) {reason : Reason} {stage : Stage}
    (phase : t.phase = .flushing reason stage) (calls : List SinkCall) :
    t.Moved ({ t.carriedOut with calls := calls }.release.afterLoopFlush reason
      (t.worker.flush t.sink).1) := by
  have after := sound.carriedOut
  have flushed := t.carriedOut_machine
  cases reason with
  | due =>
      refine ⟨.going after.cancelled after.closed rfl rfl, rfl,
        .single .own ?_ rfl t.due_le_nextTick (by simp)⟩
      have wanted : t.machine.wanted = true := by simp [machine, phase]
      rw [Machine.next, if_pos wanted]
      simp only [machine, phase, Phase.inHand, afterLoopFlush, release, carriedOut]
      rfl
  | last =>
      have last : t.phase.isLast = true := by simp [phase]
      have ending : t.phase.isEnding = true := by simp [phase]
      refine ⟨⟨after.cancelled, after.closed, fun _ => sound.ending ending,
        fun _ => after.emptied last⟩, rfl, .single .flush ?_ rfl t.due_le_nextTick (by simp)⟩
      rw [← flushed]
      simp only [machine, phase, Phase.inHand, Phase.wants, afterLoopFlush, release, carriedOut]

/-- Who asks for the buffer makes no move by that. -/
theorem acquire_moved (sound : t.Sound) (party : Party) :
    t.Moved (t.acquire party).1 ∧ (t.acquire party).1.phase = t.phase := by
  obtain ⟨holder, waiting, same⟩ := t.acquire_eq party
  rw [same]
  exact ⟨waiting_moved sound holder waiting t.waitingForRoom t.granted t.calls, rfl⟩

/-- What the loop does with a request in hand once it has the buffer. -/
theorem takingIn_moved (sound : t.Sound) {request : DeletionRequest} {ending : Bool}
    (phase : t.phase = .takingIn request ending) :
    let taken := { t with worker := t.worker.takeIn request }.release
    t.Moved (if ending then { taken with phase := .draining }
      else if taken.worker.isDue then { taken with phase := .flushing .due .wanting }
      else { taken with phase := .selecting }) := by
  obtain ⟨taken, due⟩ := takeOver_machine phase
  have calm : t.machine.wanted = false := by simp [machine, phase]
  dsimp only
  split
  · next ends =>
      have closed := sound.ending (by simp [phase, ends])
      have stopped : t.machine.worker.state = .stopped := sound.closed closed
      refine ⟨.closing stopped closed (by simp), rfl,
        .single .drain ?_ rfl t.due_le_nextTick (by simp)⟩
      rw [Machine.next, if_pos stopped, taken, machine, machine, phase]
      rfl
  split
  · next reached =>
      have reached : (t.worker.takeIn request).isDue = true := reached
      refine ⟨.going sound.cancelled sound.closed rfl rfl, rfl,
        .single .takeOver ?_ rfl t.due_le_nextTick (by simp)⟩
      rw [Machine.next, taken, due, calm, reached]
      rfl
  · next short =>
      have short : (t.worker.takeIn request).isDue = false := Bool.eq_false_iff.mpr short
      refine ⟨.going sound.cancelled sound.closed rfl rfl, rfl,
        .single .takeOver ?_ rfl t.due_le_nextTick (by simp)⟩
      rw [Machine.next, taken, due, calm, short]
      rfl

/-- The loop waits for the sink. -/
theorem calling_moved (sound : t.Sound) {reason : Reason} {stage : Stage}
    (phase : t.phase = .flushing reason stage) (calls : List SinkCall) (ready : Nat) :
    t.Moved { t with calls := calls, phase := .flushing reason (.calling ready) } := by
  cases reason with
  | due =>
      refine ⟨.going sound.cancelled sound.closed rfl rfl, rfl, .still ?_ rfl t.due_le_nextTick⟩
      simp [machine, phase]
  | last =>
      have ending : t.phase.isEnding = true := by simp [phase]
      have last : t.phase.isLast = true := by simp [phase]
      refine ⟨⟨sound.cancelled, sound.closed, fun _ => sound.ending ending,
        fun _ => sound.emptied last⟩, rfl, .still ?_ rfl t.due_le_nextTick⟩
      simp [machine, phase]

omit [DeletionSink σ] in
theorem nextTick_le_tickAfter (t : Timeline σ) : t.nextTick ≤ t.tickAfter := by
  unfold tickAfter
  split <;> omega

/-- What the loop does next before the end, with empty hands. -/
theorem selecting_moved (sound : t.Sound) (phase : t.phase = .selecting) :
    t.Moved t.loopStep.1 := by
  simp only [loopStep, phase]
  split
  · next cancelled =>
      have stopped := sound.cancelled cancelled
      refine ⟨.closing stopped rfl (by simp), rfl,
        .still ?_ rfl t.due_le_nextTick⟩
      simp [machine, phase]
  split
  · next reached =>
      have due : t.due ≤ t.now := Nat.le_trans t.due_le_nextTick reached
      have later : t.due ≤ t.tickAfter := Nat.le_trans t.due_le_nextTick t.nextTick_le_tickAfter
      refine ⟨.going sound.cancelled sound.closed rfl rfl, rfl,
        ⟨[.tick], ?_, rfl, fun _ => due⟩, Nat.le_refl _, later⟩
      simp [machine, phase, Machine.next]
  obtain ⟨-, none⟩ | ⟨request, rest, granted, waiting, queue, taken⟩ := t.dequeue_cases
  · rw [none]
    exact .refl sound
  · rw [taken]
    refine ⟨.going sound.cancelled sound.closed rfl rfl, rfl, .still ?_ rfl t.due_le_nextTick⟩
    simp [machine, phase, queue]

/-- What it does after the end. -/
theorem draining_moved (sound : t.Sound) (phase : t.phase = .draining) :
    t.Moved t.loopStep.1 := by
  have closed := sound.ending (by simp [phase])
  simp only [loopStep, phase]
  obtain ⟨blank, none⟩ | ⟨request, rest, granted, waiting, queue, taken⟩ := t.dequeue_cases
  · rw [none]
    dsimp only
    split
    · refine ⟨.closing (sound.closed closed) closed fun _ => blank, rfl,
        .still ?_ rfl t.due_le_nextTick⟩
      simp [machine, phase]
    · refine ⟨.closing (sound.closed closed) closed fun _ => blank, rfl,
        .still ?_ rfl t.due_le_nextTick⟩
      simp [machine, phase]
  · rw [taken]
    refine ⟨.closing (sound.closed closed) closed (by simp), rfl,
      .still ?_ rfl t.due_le_nextTick⟩
    simp [machine, phase, queue]

/-- **A step of the loop** makes moves of the worker, and accepts nothing. -/
theorem loopStep_moved (sound : t.Sound) : t.Moved t.loopStep.1 := by
  cases phase : t.phase with
  | absent =>
      simp only [loopStep, phase]
      exact .refl sound
  | ended =>
      simp only [loopStep, phase]
      exact .refl sound
  | selecting => exact selecting_moved sound phase
  | draining => exact draining_moved sound phase
  | takingIn request ending =>
      simp only [loopStep, phase]
      obtain ⟨locked, still⟩ := acquire_moved sound .loop
      generalize t.acquire .loop = result at locked still ⊢
      obtain ⟨asked, has⟩ := result
      cases has with
      | false => exact locked
      | true =>
          refine locked.trans ?_
          simpa only [apply_ite Prod.fst] using takingIn_moved locked.sound (still.trans phase)
  | flushing reason stage =>
      cases stage with
      | wanting =>
          simp only [loopStep, phase]
          obtain ⟨locked, still⟩ := acquire_moved sound .loop
          generalize t.acquire .loop = result at locked still ⊢
          obtain ⟨asked, has⟩ := result
          cases has with
          | false => exact locked
          | true =>
              refine locked.trans ?_
              dsimp only
              obtain ⟨calls, ready, begun⟩ | ⟨calls, begun⟩ := asked.beginFlush_cases
              · rw [begun]
                exact calling_moved locked.sound (still.trans phase) calls ready
              · rw [begun]
                exact afterLoopFlush_moved locked.sound (still.trans phase) calls
      | calling ready =>
          simp only [loopStep, phase]
          split
          · rw [finishCall_eq]
            exact afterLoopFlush_moved sound phase t.calls
          · exact .refl sound

/-! ### Steps of the callers -/

/-- The requests that are put in. -/
def Request.asked : Request → List DeletionRequest
  | .add requests => requests
  | _ => []

/-- The outcomes that a caller has seen. -/
def Activity.outcomes : Activity → List (Except Fault Unit)
  | .adding _ outcomes _ => outcomes
  | .finished (.added outcomes) => outcomes
  | _ => []

/-- The pairs of a request that were accepted with this outcome. -/
def accepts (request : DeletionRequest) : Except Fault Unit → List (String × String)
  | .ok () => request.pairs
  | .error _ => []

/-- The pairs that a caller who puts in these requests has been told to be accepted. -/
def told (asked : List DeletionRequest) (activity : Activity) : List (String × String) :=
  (List.zipWith accepts asked activity.outcomes).flatten

/-- A caller who puts in these requests has the last of them left. -/
def Tracks (asked : List DeletionRequest) : Activity → Prop
  | .adding left outcomes _ => ∃ done, asked = done ++ left ∧ done.length = outcomes.length
  | _ => True

/-- What a caller does, and is told. -/
structure CallerMoved (asked : List DeletionRequest) (t : Timeline σ) (before : Activity)
    (after : Timeline σ) (activity : Activity) : Prop where
  sound : after.Sound
  callers : after.callers = t.callers
  tracks : Tracks asked activity
  follows : ∃ accepted, t.Follows after accepted ∧
    told asked activity = told asked before ++ accepted

variable {asked : List DeletionRequest}

theorem CallerMoved.trans {before between activity : Activity} {middle after : Timeline σ}
    (one : CallerMoved asked t before middle between)
    (two : CallerMoved asked middle between after activity) :
    CallerMoved asked t before after activity := by
  obtain ⟨first, followed, toldFirst⟩ := one.follows
  obtain ⟨later, follows, toldLater⟩ := two.follows
  exact ⟨two.sound, two.callers.trans one.callers, two.tracks, first ++ later,
    followed.trans follows, by rw [toldLater, toldFirst, List.append_assoc]⟩

/-- A step in which a caller is told nothing. -/
theorem Moved.caller {after : Timeline σ} (moved : t.Moved after)
    {before activity : Activity} (tracks : Tracks asked activity)
    (outcomes : activity.outcomes = before.outcomes) :
    CallerMoved asked t before after activity :=
  ⟨moved.sound, moved.callers, tracks, [], moved.follows,
    by rw [told, told, outcomes, List.append_nil]⟩

/-- As long as requests are taken, a request may be put into the queue. -/
theorem Sound.enqueue (sound : t.Sound) (opened : t.closed = false)
    (request : DeletionRequest) :
    (t.enqueue request).Sound ∧ t.Follows (t.enqueue request) request.pairs := by
  have going : t.phase.isEnding = false := by
    refine Bool.eq_false_iff.mpr fun ending => ?_
    exact absurd (opened.symm.trans (sound.ending ending)) (by decide)
  have early (last : t.phase.isLast = true) : False := by
    cases phase : t.phase <;> simp_all
  refine ⟨⟨sound.cancelled, sound.closed, sound.ending, fun last => (early last).elim⟩,
    .single (.put request) ?_ rfl (Nat.le_refl _) (by simp)⟩
  simp [machine, Timeline.enqueue, Machine.next]

/-- The pairs of a request that were accepted with this outcome, if there is one yet. -/
def acceptsSoFar (request : DeletionRequest) (outcome : Option (Except Fault Unit)) :
    List (String × String) :=
  (outcome.map (accepts request)).getD []

theorem addStep_moved (sound : t.Sound) (index : Nat) (request : DeletionRequest)
    (waiting : Bool) :
    (t.addStep index request waiting).1.Sound ∧
      (t.addStep index request waiting).1.callers = t.callers ∧
      t.Follows (t.addStep index request waiting).1
        (acceptsSoFar request (t.addStep index request waiting).2) := by
  unfold addStep
  split
  · split
    · exact ⟨sound, rfl, .refl t⟩
    · next opened =>
        have opened : t.closed = false := Bool.eq_false_iff.mpr opened
        split
        · have ungranted : t.Moved { t with granted := t.granted.erase index } :=
            waiting_moved sound t.holder t.waitingForBuffer t.waitingForRoom _ t.calls
          obtain ⟨after, put⟩ := ungranted.sound.enqueue opened request
          exact ⟨after, rfl, ungranted.follows.trans put⟩
        · exact ⟨sound, rfl, .refl t⟩
  · split
    · next blank =>
        have nothing : accepts request (.ok ()) = [] :=
          DeletionRequest.pairs_eq_nil_of_isEmpty blank
        refine ⟨sound, rfl, ?_⟩
        rw [acceptsSoFar, Option.map_some, nothing]
        exact .refl t
    split
    · exact ⟨sound, rfl, .refl t⟩
    · next running =>
        split
        · have opened : t.closed = false := by
            refine Bool.eq_false_iff.mpr fun closed => running ?_
            simp [sound.closed closed]
          obtain ⟨after, put⟩ := sound.enqueue opened request
          exact ⟨after, rfl, put⟩
        · have waits : t.Moved { t with waitingForRoom := t.waitingForRoom ++ [index] } :=
            waiting_moved sound t.holder t.waitingForBuffer _ t.granted t.calls
          exact ⟨waits.sound, rfl, waits.follows⟩

omit [DeletionSink σ] in
/-- A caller is told the outcome of the first request that is left. -/
theorem told_answered {done : List DeletionRequest} {outcomes : List (Except Fault Unit)}
    (counted : done.length = outcomes.length) {request : DeletionRequest}
    (left : List DeletionRequest) (waiting : Bool) (outcome : Except Fault Unit) :
    told (done ++ request :: left) (.adding left (outcomes ++ [outcome]) false)
      = told (done ++ request :: left) (.adding (request :: left) outcomes waiting)
        ++ accepts request outcome := by
  have before : List.zipWith accepts (done ++ request :: left) (outcomes ++ [])
      = List.zipWith accepts done outcomes ++ [] := List.zipWith_append counted
  rw [List.append_nil, List.append_nil] at before
  rw [told, told, Activity.outcomes, Activity.outcomes, before, List.zipWith_append counted]
  simp

omit [DeletionSink σ] in
theorem flushReply_outcomes (answer : Except Fault Nat) :
    (Activity.finished (flushReply answer)).outcomes = [] := by
  cases answer <;> rfl

/-- **A step of a caller** makes moves of the worker, and these accept what the caller is told. -/
theorem callerStep_moved (sound : t.Sound) (index : Nat) {activity : Activity}
    (tracks : Tracks asked activity) :
    CallerMoved asked t activity (t.callerStep index activity).1
      (t.callerStep index activity).2.1 := by
  have stay {after : Activity} (same : Tracks asked after)
      (outcomes : after.outcomes = activity.outcomes) : CallerMoved asked t activity t after :=
    (Moved.refl sound).caller same outcomes
  cases activity with
  | finished reply => exact stay tracks rfl
  | sleeping ready =>
      simp only [callerStep]
      split
      · exact stay trivial rfl
      · exact stay trivial rfl
  | stopping =>
      simp only [callerStep]
      split
      · exact stay trivial rfl
      · exact stay trivial rfl
  | adding left outcomes waiting =>
      cases left with
      | nil => exact stay trivial rfl
      | cons request left =>
          obtain ⟨after, callers, follows⟩ := addStep_moved sound index request waiting
          simp only [callerStep]
          generalize t.addStep index request waiting = result at after callers follows ⊢
          obtain ⟨put, outcome⟩ := result
          cases outcome with
          | none => exact Moved.caller ⟨after, callers, follows⟩ tracks rfl
          | some outcome =>
              obtain ⟨done, split, counted⟩ := tracks
              refine ⟨after, callers, ⟨done ++ [request], by simp [split], by simp [counted]⟩,
                accepts request outcome, follows, ?_⟩
              exact split ▸ told_answered counted left waiting outcome
  | flushing stage =>
      cases stage with
      | wanting =>
          simp only [callerStep]
          obtain ⟨locked, -⟩ := acquire_moved sound (.caller index)
          generalize t.acquire (.caller index) = result at locked ⊢
          obtain ⟨holding, has⟩ := result
          cases has with
          | false => exact locked.caller trivial rfl
          | true =>
              dsimp only
              obtain ⟨calls, ready, begun⟩ | ⟨calls, begun⟩ := holding.beginFlush_cases
              · rw [begun]
                have waits : holding.Moved { holding with calls := calls } :=
                  waiting_moved locked.sound holding.holder holding.waitingForBuffer
                    holding.waitingForRoom holding.granted calls
                exact (locked.trans waits).caller trivial rfl
              · rw [begun]
                exact (locked.trans (carriedOut_moved locked.sound calls)).caller trivial
                  (flushReply_outcomes _)
      | calling ready =>
          simp only [callerStep]
          split
          · rw [finishCall_eq]
            exact (carriedOut_moved sound t.calls).caller trivial (flushReply_outcomes _)
          · exact stay trivial rfl

omit [DeletionSink σ] in
/-- A start does not look at the queue. -/
theorem start_queue (w : Worker) (queue : List DeletionRequest) :
    { w with queue := queue }.start.2 = { w.start.2 with queue := queue } := by
  obtain ⟨settings, state, _, buffer, pending, backingOff⟩ := w
  cases state <;> rfl

/-- A worker that is started runs, unless it was stopped before. -/
theorem started_moved (sound : t.Sound) :
    t.Moved { t with worker := t.worker.start.2 } := by
  have frame := t.worker.start_frame
  have stopped (ended : t.worker.state = .stopped) : t.worker.start.2.state = .stopped := by
    rw [Worker.start, ended]
    exact ended
  refine ⟨⟨fun cancelled => stopped (sound.cancelled cancelled),
    fun closed => stopped (sound.closed closed), sound.ending,
    fun last => frame.1.trans (sound.emptied last)⟩, rfl,
    .single .start ?_ rfl (Nat.le_refl _) (by simp)⟩
  simp only [machine, Machine.next, start_queue, frame.1]

/-- A loop that was not there begins. -/
theorem begun_moved (sound : t.Sound) (absent : t.phase = .absent) (nextTick : Nat) :
    t.Moved { t with phase := .selecting, nextTick := nextTick } := by
  refine ⟨.going sound.cancelled sound.closed rfl rfl, rfl,
    ⟨[], ?_, rfl, by simp⟩, Nat.le_refl _, ?_⟩
  · simp [machine, absent]
  · rw [due_of_absent absent]
    exact Nat.zero_le _

theorem startRequest_moved (sound : t.Sound) :
    t.Moved (t.beginRequest .start).1 ∧ Tracks [] (t.beginRequest .start).2 ∧
      (t.beginRequest .start).2.outcomes = [] := by
  have started := started_moved sound
  simp only [beginRequest]
  split
  · exact ⟨started, trivial, rfl⟩
  · next absent => exact ⟨started.trans (begun_moved started.sound absent _), trivial, rfl⟩
  · exact ⟨started, trivial, rfl⟩

/-- **The beginning of a request** makes moves, too. By then the caller has been told nothing. -/
theorem beginRequest_moved (sound : t.Sound) (request : Request) :
    t.Moved (t.beginRequest request).1 ∧
      Tracks request.asked (t.beginRequest request).2 ∧
      (t.beginRequest request).2.outcomes = [] := by
  cases request with
  | start => exact startRequest_moved sound
  | add requests => exact ⟨.refl sound, ⟨[], rfl, rfl⟩, rfl⟩
  | flush => exact ⟨.refl sound, trivial, rfl⟩
  | sleep duration => exact ⟨.refl sound, trivial, rfl⟩
  | stop =>
      simp only [beginRequest]
      cases state : t.worker.state with
      | stopped => exact ⟨.refl sound, trivial, rfl⟩
      | idle =>
          refine ⟨⟨⟨fun _ => rfl, fun _ => rfl, sound.ending, sound.emptied⟩, rfl,
            .single .halt rfl rfl (Nat.le_refl _) (by simp)⟩, trivial, rfl⟩
      | running =>
          refine ⟨⟨⟨fun _ => rfl, fun _ => rfl, sound.ending, sound.emptied⟩, rfl,
            .single .halt rfl rfl (Nat.le_refl _) (by simp)⟩, trivial, rfl⟩

/-! ### Runs -/

/-- The loop goes on until it has to wait. -/
theorem loopSteps_moved (sound : t.Sound) (fuel : Nat) : t.Moved (loopSteps fuel t).1 := by
  induction fuel generalizing t with
  | zero => exact .refl sound
  | succ fuel ih =>
      have moved := loopStep_moved sound
      rw [loopSteps]
      generalize t.loopStep = result at moved ⊢
      obtain ⟨after, more⟩ := result
      cases more with
      | false => exact moved
      | true => exact moved.trans (ih moved.sound)

/-- A caller goes on until the caller has to wait. -/
theorem callerSteps_moved (sound : t.Sound) (index fuel : Nat) {activity : Activity}
    (tracks : Tracks asked activity) :
    CallerMoved asked t activity (callerSteps index fuel t activity).1
      (callerSteps index fuel t activity).2.1 := by
  induction fuel generalizing t activity with
  | zero => exact (Moved.refl sound).caller tracks rfl
  | succ fuel ih =>
      have moved := callerStep_moved sound index tracks
      rw [callerSteps]
      generalize t.callerStep index activity = result at moved ⊢
      obtain ⟨after, at_, more⟩ := result
      cases more with
      | false => exact moved
      | true => exact moved.trans (ih moved.sound moved.tracks)

/-- The pairs that callers have been told to be accepted. -/
def toldAll (asked : List (List DeletionRequest)) (callers : List Activity) :
    List (String × String) :=
  (List.zipWith told asked callers).flatten

variable {askedAll : List (List DeletionRequest)}

/-- What callers do, one after the other, and are told. -/
structure CallersMoved (asked : List (List DeletionRequest)) (t : Timeline σ)
    (before : List Activity) (after : Timeline σ) (callers : List Activity) : Prop where
  sound : after.Sound
  tracks : List.Forall₂ Tracks asked callers
  follows : ∃ accepted, t.Follows after accepted ∧
    ∀ pair, pair ∈ toldAll asked callers ↔ pair ∈ toldAll asked before ∨ pair ∈ accepted

/-- All callers go on, in order. -/
theorem callersSteps_moved (sound : t.Sound) (index : Nat) {callers : List Activity}
    (tracks : List.Forall₂ Tracks askedAll callers) :
    CallersMoved askedAll t callers (callersSteps index callers t).1
      (callersSteps index callers t).2.1 := by
  induction tracks generalizing t index with
  | nil => exact ⟨sound, .nil, [], .refl t, by simp [callersSteps]⟩
  | @cons asked activity askedRest rest tracked tracks ih =>
      have moved := callerSteps_moved sound index (activity.left + 4) tracked
      rw [callersSteps]
      generalize callerSteps index (activity.left + 4) t activity = result at moved ⊢
      obtain ⟨middle, reached, one⟩ := result
      have others := ih moved.sound (index + 1)
      dsimp only
      generalize callersSteps (index + 1) rest middle = result at others ⊢
      obtain ⟨after, callers, more⟩ := result
      obtain ⟨first, followed, toldFirst⟩ := moved.follows
      obtain ⟨later, follows, toldLater⟩ := others.follows
      refine ⟨others.sound, .cons moved.tracks others.tracks, first ++ later,
        followed.trans follows, fun pair => ?_⟩
      simp only [toldAll, List.zipWith_cons_cons, List.flatten_cons, List.mem_append] at toldLater ⊢
      rw [toldFirst, toldLater, List.mem_append, or_or_or_comm]

/-- What has happened since a moment without callers: the moves of the worker have accepted what its
callers have been told. -/
structure Story (start : Timeline σ) (asked : List (List DeletionRequest)) (t : Timeline σ) :
    Prop where
  sound : t.Sound
  tracks : List.Forall₂ Tracks asked t.callers
  follows : ∃ accepted, start.Follows t accepted ∧
    ∀ pair, pair ∈ toldAll asked t.callers ↔ pair ∈ accepted

variable {start : Timeline σ}

namespace Story

theorem opening (sound : start.Sound) : Story start [] { start with callers := [] } where
  sound := ⟨sound.cancelled, sound.closed, sound.ending, sound.emptied⟩
  tracks := .nil
  follows := ⟨[], .still rfl rfl (Nat.le_refl _), by simp [toldAll]⟩

theorem loop {after : Timeline σ} (story : Story start askedAll t) (moved : t.Moved after) :
    Story start askedAll after := by
  obtain ⟨accepted, follows, told⟩ := story.follows
  refine ⟨moved.sound, moved.callers ▸ story.tracks, accepted, ?_, moved.callers ▸ told⟩
  simpa using follows.trans moved.follows

/-- A turn of all callers and the loop. -/
theorem turn (story : Story start askedAll t) : Story start askedAll t.turn.1 := by
  have moved := callersSteps_moved story.sound 0 story.tracks
  rw [Timeline.turn]
  generalize callersSteps 0 t.callers t = result at moved ⊢
  obtain ⟨after, callers, some⟩ := result
  obtain ⟨before, followed, toldBefore⟩ := story.follows
  obtain ⟨accepted, follows, told⟩ := moved.follows
  have called : Story start askedAll { after with callers := callers } := by
    have sound := moved.sound
    refine ⟨⟨sound.cancelled, sound.closed, sound.ending, sound.emptied⟩, moved.tracks,
      before ++ accepted, followed.trans ⟨follows.moves, follows.now_le, follows.due_le⟩,
      fun pair => ?_⟩
    rw [told, toldBefore, List.mem_append]
  exact called.loop (loopSteps_moved called.sound _)

theorem turns (story : Story start askedAll t) (fuel : Nat) :
    Story start askedAll (Timeline.turns fuel t) := by
  induction fuel generalizing t with
  | zero => exact story
  | succ fuel ih =>
      have turned := story.turn
      rw [Timeline.turns]
      generalize t.turn = result at turned ⊢
      obtain ⟨after, more⟩ := result
      cases more with
      | false => exact turned
      | true => exact ih turned

/-- The clock moves on. -/
theorem later (story : Story start askedAll t) (time : Nat) :
    Story start askedAll { t with now := max t.now time } := by
  have sound := story.sound
  exact story.loop ⟨⟨sound.cancelled, sound.closed, sound.ending, sound.emptied⟩, rfl,
    ⟨[], rfl, rfl, by simp⟩, Nat.le_max_left _ _, Nat.le_refl _⟩

theorem advance (story : Story start askedAll t) (fuel : Nat) :
    Story start askedAll (Timeline.advance fuel t) := by
  induction fuel generalizing t with
  | zero => exact story
  | succ fuel ih =>
      have settled : Story start askedAll t.settled := story.turns _
      rw [Timeline.advance]
      split
      · exact settled
      split
      · exact ih (settled.later _)
      · exact settled

/-- Another caller comes. -/
theorem request (story : Story start askedAll t) (request : Request) :
    let begun := t.beginRequest request
    let called := callerSteps begun.1.callers.length (begun.2.left + 4) begun.1 begun.2
    Story start (askedAll ++ [request.asked])
      { called.1 with callers := called.1.callers ++ [called.2.1] } := by
  dsimp only
  obtain ⟨moved, tracks, outcomes⟩ := beginRequest_moved story.sound request
  have begun := story.loop moved
  generalize t.beginRequest request = result at moved begun tracks outcomes ⊢
  obtain ⟨middle, activity⟩ := result
  have calls := callerSteps_moved begun.sound middle.callers.length (activity.left + 4) tracks
  generalize callerSteps middle.callers.length (activity.left + 4) middle activity = result
    at calls ⊢
  obtain ⟨after, reached, some⟩ := result
  obtain ⟨before, followed, toldBefore⟩ := begun.follows
  obtain ⟨accepted, follows, told⟩ := calls.follows
  have nothing : Timeline.told request.asked activity = [] := by simp [Timeline.told, outcomes]
  have sound := calls.sound
  have tracks := begun.tracks
  rw [← calls.callers] at tracks toldBefore
  refine ⟨⟨sound.cancelled, sound.closed, sound.ending, sound.emptied⟩,
    List.rel_append tracks (.cons calls.tracks .nil), before ++ accepted,
    followed.trans ⟨follows.moves, follows.now_le, follows.due_le⟩, fun pair => ?_⟩
  rw [List.mem_append, ← toldBefore, toldAll, List.zipWith_append tracks.length_eq,
    List.flatten_append, List.mem_append, List.zipWith_cons_cons, told, nothing]
  simp [toldAll]

theorem requests (story : Story start askedAll t) (requests : List Request) :
    Story start (askedAll ++ requests.map Request.asked) (t.beginRequests requests) := by
  induction requests generalizing t askedAll with
  | nil => simpa [beginRequests] using story
  | cons request rest ih =>
      rw [List.map_cons, ← List.singleton_append, ← List.append_assoc]
      exact ih (story.request request)

end Story

/-! ### Whole runs -/

/-- The moment after the last of some requests that begin together, with the callers still there. -/
def played (t : Timeline σ) (requests : List Request) : Timeline σ :=
  advance (t.bound requests) ({ t with callers := [] }.beginRequests requests)

/-- The pairs that callers are told to be accepted in requests that begin together. -/
def toldIn (t : Timeline σ) (requests : List Request) : List (String × String) :=
  toldAll (requests.map Request.asked) (t.played requests).callers

/-- If all callers are answered, these pairs stand in the replies. -/
theorem toldIn_of_replies {requests : List Request}
    (answered : (t.played requests).callers.all Activity.isFinished = true) :
    t.toldIn requests
      = toldAll (requests.map Request.asked) ((t.together requests).1.map .finished) := by
  have all {callers : List Activity} (answered : callers.all Activity.isFinished = true) :
      (callers.filterMap Activity.reply?).map .finished = callers := by
    induction callers with
    | nil => rfl
    | cons activity rest ih =>
        rw [List.all_cons, Bool.and_eq_true] at answered
        cases activity with
        | finished reply => exact congrArg (_ :: ·) (ih answered.2)
        | _ => exact absurd answered.1 Bool.false_ne_true
  exact congrArg (toldAll _) (all answered).symm

/-- **Requests that run side by side** make moves of the worker, and these accept what callers are
told. -/
theorem together_follows (sound : t.Sound) (requests : List Request) :
    (t.together requests).2.Sound ∧ ∃ accepted, t.Follows (t.together requests).2 accepted ∧
      ∀ pair, pair ∈ t.toldIn requests ↔ pair ∈ accepted := by
  obtain ⟨sound, -, accepted, follows, told⟩ :=
    ((Story.opening sound).requests requests).advance (t.bound requests)
  exact ⟨⟨sound.cancelled, sound.closed, sound.ending, sound.emptied⟩, accepted,
    ⟨follows.moves, follows.now_le, follows.due_le⟩, told⟩

theorem Follows.paced {after : Timeline σ} {accepted : List (String × String)}
    (follows : t.Follows after accepted) (paced : t.machine.Paced)
    (threshold : 1 ≤ t.worker.settings.maxPending) : after.machine.Paced := by
  obtain ⟨moves, run, -, -⟩ := follows.moves
  rw [run]
  exact paced.run threshold moves

theorem Follows.conserved {t after : Timeline (Accounted σ)} {earlier : List (String × String)}
    {accepted : List (String × String)} (follows : t.Follows after accepted)
    (conserved : t.machine.Conserved earlier) : after.machine.Conserved (earlier ++ accepted) := by
  obtain ⟨moves, run, rfl, -⟩ := follows.moves
  rw [run]
  exact conserved.run moves

/-- A worker that was not started yet, at a sink that takes so long for a call. -/
def opened (settings : WorkerSettings) (sink : σ) (delay : Nat) : Timeline σ :=
  { worker := { settings := settings }, sink := sink, delay := delay }

omit [DeletionSink σ] in
theorem sound_opened (settings : WorkerSettings) (sink : σ) (delay : Nat) :
    (opened settings sink delay).Sound :=
  .going (by simp [opened]) (by simp [opened]) rfl rfl

/-- The moment after groups of requests, of which each begins when all of the last are answered. -/
def afterAll (t : Timeline σ) (groups : List (List Request)) : Timeline σ :=
  groups.foldl (fun t requests => (t.together requests).2) t

/-- The pairs that callers are told to be accepted in groups of requests. -/
def toldThroughout (t : Timeline σ) : List (List Request) → List (String × String)
  | [] => []
  | requests :: rest => t.toldIn requests ++ toldThroughout (t.together requests).2 rest

theorem afterAll_follows (sound : t.Sound) (groups : List (List Request)) :
    (t.afterAll groups).Sound ∧ ∃ accepted, t.Follows (t.afterAll groups) accepted ∧
      ∀ pair, pair ∈ t.toldThroughout groups ↔ pair ∈ accepted := by
  induction groups generalizing t with
  | nil => exact ⟨sound, [], .refl t, fun _ => Iff.rfl⟩
  | cons requests rest ih =>
      obtain ⟨between, first, followed, toldFirst⟩ := together_follows sound requests
      obtain ⟨after, later, follows, toldLater⟩ := ih between
      refine ⟨after, first ++ later, followed.trans follows, fun pair => ?_⟩
      rw [toldThroughout, List.mem_append, List.mem_append, toldFirst, toldLater]

/-- **The worker in time is a worker.** Whatever is asked for side by side, and however long the
sink takes, its moments follow by moves of the worker. So what callers were told to be accepted is
conserved, the buffer of a loop that is neither backing off nor about to flush stays below the
threshold, and a loop that has ended leaves no queue. -/
theorem run_conserved (settings : WorkerSettings) (sink : σ) (delay : Nat)
    (groups : List (List Request)) :
    let start := opened settings (Accounted.mk sink []) delay
    let finish := start.afterAll groups
    (∃ accepted, start.Follows finish accepted) ∧
      finish.machine.Conserved (start.toldThroughout groups) ∧
      (1 ≤ settings.maxPending → finish.machine.Paced) ∧
      (finish.phase = .ended → finish.worker.queue = []) := by
  obtain ⟨sound, accepted, follows, told⟩ :=
    afterAll_follows (sound_opened settings (Accounted.mk sink []) delay) groups
  have conserved := follows.conserved (Machine.conserved_opened settings sink)
  refine ⟨⟨accepted, follows⟩, ⟨fun pair => ?_, conserved.pending⟩, fun threshold => ?_,
    fun ended => sound.emptied (by simp [ended])⟩
  · rw [told, ← conserved.pairs, List.nil_append]
  · exact follows.paced (fun _ => Worker.paced_of_isEmpty threshold rfl) threshold

end Timeline

end ShortLinks
