import ShortLinks.Proofs.Deletion.Conservation

/-!
When the loop of the worker calls the sink.

* `Watch` — a worker over any sink, with the calls that the sink has received; `next_calls` says
  that a step calls it with what it hands over, and else not at all.
* `handed_receive` — taking over a request hands the buffer over exactly if the request reaches the
  threshold and the loop is not backing off.
* `next_backingOff` — the loop is backing off from a flush of its own that failed up to the next
  tick; manual flushes have no part in it.
* `Worker.Paced` — a loop that is not backing off has fewer keys in its buffer than the threshold:
  its own flushes leave it backing off or with nothing gathered (`ownFlush_cases`).
* `backs_off_and_stays_bounded` — all of it, along every run.
-/

namespace ShortLinks

namespace PendingBuffer

theorem push_filled (buffer : PendingBuffer) (request : DeletionRequest) :
    (buffer.push request).isEmpty = false := by
  unfold isEmpty push gather
  split
  · rfl
  · split <;> rfl

theorem keyCount_of_isEmpty {buffer : PendingBuffer} (blank : buffer.isEmpty = true) :
    buffer.keyCount = 0 := by
  rw [keyCount, List.isEmpty_iff.mp blank, List.flatMap_nil, List.length_nil]

end PendingBuffer

namespace Worker

variable {w : Worker} {request : DeletionRequest} {rest : List DeletionRequest}

/-! ### What is handed over -/

/-- The request reaches the threshold of a loop that is not backing off. -/
def Reaches (w : Worker) (request : DeletionRequest) : Prop :=
  w.backingOff = false ∧ w.settings.maxPending ≤ (w.buffer.push request).keyCount

instance (w : Worker) (request : DeletionRequest) : Decidable (w.Reaches request) :=
  inferInstanceAs (Decidable (_ ∧ _))

theorem isDue_iff (w : Worker) :
    w.isDue = true ↔ w.backingOff = false ∧ w.settings.maxPending ≤ w.buffer.keyCount := by
  simp [isDue]

theorem takeOver_isDue (queue : w.queue = request :: rest) :
    w.takeOver.isDue = true ↔ w.Reaches request := by
  rw [isDue_iff, takeOver, queue]
  exact Iff.rfl

theorem flushes_receive (queue : w.queue = request :: rest) :
    Step.flushes w .receive = true ↔ w.Reaches request := by
  simp [Step.flushes, queue, takeOver_isDue queue]

theorem handed_receive (queue : w.queue = request :: rest) :
    Step.handed w .receive =
      if w.Reaches request then some (w.buffer.push request).requests else none := by
  have taken : (Step.gathered w .receive).buffer = w.buffer.push request := by
    simp only [Step.gathered, takeOver, queue]
    rfl
  simp only [Step.handed, flushes_receive queue, taken, w.buffer.push_filled request,
    Bool.and_eq_true, Bool.not_false, and_true]

theorem flushes_receive_of_backingOff (backingOff : w.backingOff = true) :
    Step.flushes w .receive = false := by
  cases queue : w.queue with
  | nil => simp [Step.flushes, queue]
  | cons request rest =>
      refine Bool.eq_false_iff.mpr fun flushes => ?_
      have reaches := (flushes_receive queue).mp flushes
      exact absurd (backingOff.symm.trans reaches.1) (by decide)

theorem handed_receive_of_backingOff (backingOff : w.backingOff = true) :
    Step.handed w .receive = none := by
  simp [Step.handed, flushes_receive_of_backingOff backingOff]

theorem flushes_of_handed {step : Step} {requests : List DeletionRequest}
    (handed : step.handed w = some requests) :
    step.flushes w = true ∧ (step.gathered w).buffer.isEmpty = false := by
  unfold Step.handed at handed
  split at handed
  · next both => simpa using both
  · nomatch handed

/-- What a step takes over is no reason to back off, or to try again. -/
theorem gathered_backingOff (step : Step) (w : Worker) :
    (step.gathered w).backingOff = w.backingOff := by
  have folded (requests : List DeletionRequest) (w : Worker) :
      (requests.foldl takeIn w).backingOff = w.backingOff := by
    induction requests generalizing w with
    | nil => rfl
    | cons request rest ih => exact ih (w.takeIn request)
  cases step with
  | start =>
      simp only [Step.gathered, start]
      cases w.state <;> rfl
  | add request =>
      simp only [Step.gathered]
      obtain ⟨-, accepted⟩ | ⟨same, -⟩ := offer_cases w request
      · rw [accepted]
        rfl
      · rw [same]
  | receive =>
      simp only [Step.gathered, takeOver]
      cases w.queue <;> rfl
  | tick => rfl
  | flush => rfl
  | stop =>
      simp only [Step.gathered, close]
      cases w.state with
      | idle => rfl
      | stopped => rfl
      | running => exact folded w.queue { w with state := .stopped }

/-! ### Flushes -/

section Flushing

variable {σ : Type} [DeletionSink σ] {sink : σ}

/-- A flush changes nothing in the worker but what is gathered, and that it keeps or clears. -/
theorem flush_frame (w : Worker) (sink : σ) :
    (w.flush sink).2.1 = w ∨ (w.flush sink).2.1 = { w with buffer := {}, pending := 0 } := by
  have outcome := flushed w sink
  generalize w.flush sink = result at outcome ⊢
  cases outcome with
  | idle => exact .inl rfl
  | done => exact .inr rfl
  | failed => exact .inl rfl

theorem flush_backingOff (w : Worker) (sink : σ) :
    (w.flush sink).2.1.backingOff = w.backingOff := by
  obtain same | cleared := w.flush_frame sink
  · rw [same]
  · rw [cleared]

/-- A step of the loop that flushes does so on its own. -/
theorem perform_of_own {step : Step} (own : step = .receive ∨ step = .tick)
    (flushes : step.flushes w = true) :
    step.perform w sink = (step.gathered w).ownFlush sink := by
  obtain rfl | rfl := own
  · simp only [Step.perform, receive_eq, flushes, if_true]
    rfl
  · simp only [Step.flushes, decide_eq_true_eq] at flushes
    simp only [Step.perform, tick, flushes, if_true]
    rfl

/-- After a flush of its own the loop is backing off or has nothing gathered. -/
theorem ownFlush_cases (w : Worker) (sink : σ) :
    (w.ownFlush sink).1.backingOff = true ∨ (w.ownFlush sink).1.buffer.isEmpty = true := by
  unfold ownFlush
  have outcome := flushed w sink
  generalize w.flush sink = result at outcome ⊢
  cases outcome with
  | idle blank => exact .inr blank
  | done => exact .inr rfl
  | failed => exact .inl rfl

/-- A flush of its own leaves the loop backing off exactly if the sink is called and fails. -/
theorem ownFlush_backingOff (w : Worker) (sink : σ) :
    (w.ownFlush sink).1.backingOff = true ↔ w.buffer.isEmpty = false ∧
      ∃ fault, (DeletionSink.apply w.buffer.requests sink).1 = .error fault := by
  unfold ownFlush
  have outcome := flushed w sink
  generalize w.flush sink = result at outcome ⊢
  cases outcome with
  | idle blank => simp [Worker.failed, blank]
  | done _ call => simp [Worker.failed, call]
  | failed filled call => simp [Worker.failed, filled, call]

/-- A step that is not the loop's own, or that does not flush, leaves it backing off or not. -/
theorem perform_backingOff {step : Step}
    (other : (step = .receive ∨ step = .tick) → step.flushes w = false) :
    (step.perform w sink).1.backingOff = w.backingOff := by
  refine Eq.trans ?_ (gathered_backingOff step w)
  cases step with
  | start => rfl
  | add request => rfl
  | receive =>
      simp only [Step.perform, receive_eq, other (.inl rfl)]
      rfl
  | tick =>
      have resting : w.state ≠ .running := by simpa [Step.flushes] using other (.inr rfl)
      simp only [Step.perform, tick, if_neg resting]
      rfl
  | flush => exact flush_backingOff w sink
  | stop =>
      simp only [Step.perform, stop_eq]
      split
      · exact flush_backingOff w.close sink
      · rfl

theorem perform_settings (step : Step) (w : Worker) (sink : σ) :
    (step.perform w sink).1.settings = w.settings := by
  have outcome := performed step w sink
  generalize step.perform w sink = result at outcome ⊢
  cases outcome <;> exact step.gathered_settings w

theorem ownFlush_settings (w : Worker) (sink : σ) :
    (w.ownFlush sink).1.settings = w.settings := by
  unfold ownFlush
  have outcome := flushed w sink
  generalize w.flush sink = result at outcome ⊢
  cases outcome <;> rfl

theorem stop_state (w : Worker) (sink : σ) : (w.stop sink).1.state = .stopped := by
  have outcome : Performed .stop w sink (w.stop sink) := performed .stop w sink
  generalize w.stop sink = result at outcome ⊢
  cases outcome <;> exact w.close_frame.1

/-! ### The bound -/

/-- Unless its worker is stopped, a loop that is not backing off has fewer keys in the buffer than
the threshold. -/
def Paced (w : Worker) : Prop :=
  w.state ≠ .stopped → w.backingOff = false → w.buffer.keyCount < w.settings.maxPending

theorem paced_of_isEmpty (threshold : 1 ≤ w.settings.maxPending) (blank : w.buffer.isEmpty = true) :
    w.Paced := by
  intro _ _
  rw [PendingBuffer.keyCount_of_isEmpty blank]
  exact threshold

theorem paced_ownFlush (threshold : 1 ≤ w.settings.maxPending) : (w.ownFlush sink).1.Paced := by
  obtain waits | blank := w.ownFlush_cases sink
  · intro _ goes
    exact absurd (waits.symm.trans goes) (by decide)
  · exact paced_of_isEmpty (w.ownFlush_settings sink ▸ threshold) blank

/-- A flush that the loop did not begin keeps what is gathered or clears it. -/
theorem Paced.flush (paced : w.Paced) (threshold : 1 ≤ w.settings.maxPending) :
    (w.flush sink).2.1.Paced := by
  obtain same | cleared := w.flush_frame sink
  · rw [same]
    exact paced
  · rw [cleared]
    exact paced_of_isEmpty threshold rfl

theorem Paced.receive (paced : w.Paced) (threshold : 1 ≤ w.settings.maxPending) :
    (w.receive sink).1.Paced := by
  rw [receive_eq]
  split
  · exact paced_ownFlush (Step.gathered_settings .receive w ▸ threshold)
  · next quiet =>
      cases queue : w.queue with
      | nil =>
          rw [takeOver, queue]
          exact paced
      | cons request rest =>
          have short : ¬w.Reaches request :=
            fun reaches => quiet ((flushes_receive queue).mpr reaches)
          rw [takeOver, queue]
          intro _ goes
          exact Nat.not_le.mp fun reached => short ⟨goes, reached⟩

/-- **No step lets the buffer of a loop that is not backing off grow to the threshold.** -/
theorem Paced.perform (paced : w.Paced) (threshold : 1 ≤ w.settings.maxPending) (step : Step) :
    (step.perform w sink).1.Paced := by
  cases step with
  | start =>
      simp only [Step.perform, start]
      cases state : w.state with
      | idle =>
          intro _ goes
          exact paced (by simp [state]) goes
      | running => exact paced
      | stopped => exact paced
  | add request =>
      simp only [Step.perform]
      obtain ⟨-, accepted⟩ | ⟨same, -⟩ := offer_cases w request
      · rw [accepted]
        exact paced
      · rw [same]
        exact paced
  | receive => exact paced.receive threshold
  | tick =>
      simp only [Step.perform, tick]
      split
      · exact paced_ownFlush threshold
      · exact paced
  | flush => exact paced.flush threshold
  | stop => exact fun goes => absurd (w.stop_state sink) goes

end Flushing

end Worker

/-! ### Runs that are watched -/

/-- A sink with what it was handed in each call, whether the call went well or not. -/
structure Watched (σ : Type) where
  inner : σ
  calls : List (List DeletionRequest) := []

/-- A worker over a sink whose calls are noted. -/
structure Watch (σ : Type) where
  worker : Worker
  sink : Watched σ

variable {σ : Type} [DeletionSink σ]

instance : DeletionSink (Watched σ) where
  apply requests s :=
    let (answer, inner) := DeletionSink.apply requests s.inner
    (answer, ⟨inner, s.calls ++ [requests]⟩)

namespace Watch

open Worker (Step)

/-- A worker that runs, with these requests in its queue and nothing gathered yet. -/
def opened (settings : WorkerSettings) (queue : List DeletionRequest) (sink : σ) : Watch σ :=
  { worker := { settings := settings, state := .running, queue := queue }, sink := ⟨sink, []⟩ }

/-- Worker and sink after a step. -/
def next (t : Watch σ) (step : Step) : Watch σ :=
  ⟨(step.perform t.worker t.sink).1, (step.perform t.worker t.sink).2⟩

/-- A step of the loop flushes, and the sink fails it. -/
def OwnFailure (t : Watch σ) (step : Step) : Prop :=
  (step = .receive ∨ step = .tick) ∧ ∃ requests fault, step.handed t.worker = some requests ∧
    (DeletionSink.apply requests t.sink.inner).1 = .error fault

/-- Taking over a request calls no sink. -/
def Quiet (t : Watch σ) (step : Step) : Prop :=
  step = .receive → (t.next step).sink.calls = t.sink.calls

/-- When the loop backs off, and when taking over a request calls the sink. -/
structure Measured (t : Watch σ) (step : Step) : Prop where
  /-- The loop is backing off from a flush of its own that failed up to the next tick. -/
  backsOff : (t.next step).worker.backingOff = true ↔
    t.OwnFailure step ∨
      t.worker.backingOff = true ∧ (step = .tick → t.worker.state ≠ .running)
  /-- After a flush of its own that failed, the loop takes over whatever comes without a call of
  the sink, until the clock ticks. -/
  waits : t.OwnFailure step → ∀ during, Step.tick ∉ during → Along next Quiet (t.next step) during
  /-- A request that reaches the threshold of a loop that is not backing off makes one call, with
  all that is gathered, and any other request makes none. -/
  calls : ∀ request rest, step = .receive → t.worker.queue = request :: rest →
    (t.next step).sink.calls = t.sink.calls ++
      if t.worker.Reaches request then [(t.worker.buffer.push request).requests] else []

variable {t : Watch σ} {step : Step}

/-- What a step hands over is all that the sink hears from it. -/
theorem next_calls (t : Watch σ) (step : Step) :
    (t.next step).sink.calls = t.sink.calls ++ (step.handed t.worker).toList := by
  unfold next
  have outcome := Worker.performed step t.worker t.sink
  generalize step.perform t.worker t.sink = result at outcome ⊢
  cases outcome with
  | quiet handed => rw [handed, Option.toList_none, List.append_nil]
  | done handed call => rw [handed, ← congrArg Prod.snd call, Option.toList_some]; rfl
  | failed handed call => rw [handed, ← congrArg Prod.snd call, Option.toList_some]; rfl

theorem ownFailure_iff (own : step = .receive ∨ step = .tick)
    (flushes : step.flushes t.worker = true) :
    t.OwnFailure step ↔ (t.next step).worker.backingOff = true := by
  rw [next, Worker.perform_of_own own flushes, Worker.ownFlush_backingOff]
  constructor
  · rintro ⟨-, requests, fault, handed, failed⟩
    refine ⟨(Worker.flushes_of_handed handed).2, fault, ?_⟩
    rw [Step.handed_eq handed]
    exact failed
  · rintro ⟨filled, fault, failed⟩
    exact ⟨own, _, fault, by simp [Step.handed, flushes, filled], failed⟩

/-- **The loop is backing off exactly after a flush of its own that failed**, until the clock
ticks. -/
theorem next_backingOff (t : Watch σ) (step : Step) :
    (t.next step).worker.backingOff = true ↔
      t.OwnFailure step ∨
        t.worker.backingOff = true ∧ (step = .tick → t.worker.state ≠ .running) := by
  by_cases own : (step = .receive ∨ step = .tick) ∧ step.flushes t.worker = true
  · obtain ⟨own, flushes⟩ := own
    rw [ownFailure_iff own flushes]
    refine (or_iff_left ?_).symm
    rintro ⟨waits, resting⟩
    obtain rfl | rfl := own
    · rw [Worker.flushes_receive_of_backingOff waits] at flushes
      nomatch flushes
    · exact resting rfl (by simpa [Step.flushes] using flushes)
  · have still : (t.next step).worker.backingOff = t.worker.backingOff :=
      Worker.perform_backingOff fun mine => Bool.eq_false_iff.mpr fun flushes => own ⟨mine, flushes⟩
    have fine : ¬t.OwnFailure step := by
      rintro ⟨mine, requests, -, handed, -⟩
      exact own ⟨mine, (Worker.flushes_of_handed handed).1⟩
    rw [still, or_iff_right fine]
    refine (and_iff_left_of_imp fun _ tick running => own ⟨.inr tick, ?_⟩).symm
    rw [tick]
    exact decide_eq_true running

/-- **A loop that is backing off makes no call of the sink before the clock ticks.** -/
theorem quiet_of_backingOff (waits : t.worker.backingOff = true) {during : List Step}
    (before : Step.tick ∉ during) : Along next Quiet t during := by
  induction during generalizing t with
  | nil => exact trivial
  | cons step rest ih =>
      rw [List.mem_cons, not_or] at before
      obtain ⟨other, later⟩ := before
      have still := (t.next_backingOff step).mpr (.inr ⟨waits, fun tick => absurd tick.symm other⟩)
      refine ⟨?_, ih still later⟩
      rintro rfl
      rw [next_calls, Worker.handed_receive_of_backingOff waits, Option.toList_none,
        List.append_nil]

theorem measured (t : Watch σ) (step : Step) : t.Measured step where
  backsOff := t.next_backingOff step
  waits failure _ before := quiet_of_backingOff ((t.next_backingOff step).mpr (.inl failure)) before
  calls request rest := by
    rintro rfl queue
    rw [next_calls, Worker.handed_receive queue]
    by_cases reaches : t.worker.Reaches request
    · rw [if_pos reaches, if_pos reaches, Option.toList_some]
    · rw [if_neg reaches, if_neg reaches, Option.toList_none]

/-- **A failed flush of its own makes the loop wait for the clock, and else its buffer stays below
the threshold**, whatever the requests, the failures of the sink and the order of the steps. -/
theorem backs_off_and_stays_bounded (settings : WorkerSettings) (queue : List DeletionRequest)
    (sink : σ) (steps : List Step) :
    Along next Measured (opened settings queue sink) steps ∧
      (1 ≤ settings.maxPending →
        Throughout next
          (fun t => t.worker.state ≠ .stopped → t.worker.backingOff = false →
            t.worker.buffer.keyCount < settings.maxPending)
          (opened settings queue sink) steps) := by
  refine ⟨along_of_cut fun before step _ _ => measured _ step, fun threshold => ?_⟩
  have paced : Throughout next
      (fun t => t.worker.settings = settings ∧ t.worker.Paced)
      (opened settings queue sink) steps :=
    throughout_of_step
      (fun t step sound _ => ⟨(Worker.perform_settings step t.worker t.sink).trans sound.1,
        sound.2.perform (by rw [sound.1]; exact threshold) step⟩)
      ⟨rfl, Worker.paced_of_isEmpty threshold rfl⟩ (along_true _ steps)
  exact paced.imp fun t sound alive goes => sound.1 ▸ sound.2 alive goes

/-- A threshold of two keys. -/
def sampleSettings : WorkerSettings := { maxPending := 2 }

/-- Requests of one owner, of which the second repeats a key of the first. -/
def sampleQueue : List DeletionRequest :=
  [⟨"ann", ["a", "b"]⟩, ⟨"ann", ["b", "c"]⟩, ⟨"bob", ["d"]⟩]

/-- The flush for the first request fails, a manual one fails too, and the tick ends the wait. -/
def sampleSteps : List Step := [.receive, .receive, .flush, .receive, .tick, .stop]

/-- A sink that fails its first two calls. -/
def sampleSink : Unsteady Unit := ⟨(), [true, true]⟩

theorem backs_off_and_stays_bounded_sampleSteps :
    (opened sampleSettings sampleQueue sampleSink).OwnFailure .receive ∧
      Along next Measured (opened sampleSettings sampleQueue sampleSink) sampleSteps ∧
      Throughout next
        (fun t => t.worker.state ≠ .stopped → t.worker.backingOff = false →
          t.worker.buffer.keyCount < sampleSettings.maxPending)
        (opened sampleSettings sampleQueue sampleSink) sampleSteps := by
  have run := backs_off_and_stays_bounded sampleSettings sampleQueue sampleSink sampleSteps
  refine ⟨⟨.inl rfl, [⟨"ann", ["a", "b"]⟩], Unsteady.refusal, ?_, rfl⟩, run.1, run.2 (by decide)⟩
  decide

end Watch

end ShortLinks
