/-!
Runs of a system that takes one step after the other.

* `Along`, `Throughout` — a condition on every step of a run, and a property of the state before
  and after every step.
* `throughout_of_step`, `Along.imp`, `along_of_step`, `foldl_of_step` — what one step preserves
  holds along a run and at its end.
* `throughout_iff_along`, `throughout_iff_along_of_along` — if a step keeps a property exactly when
  it is allowed, the property holds throughout a run exactly when all of its steps are allowed.
* `Lasting`, `lasting_iff_along` — once a property holds it holds throughout the rest; that is so
  for a family of properties exactly when every step keeps each of them.
* `along_congr_of_along`, `along_congr` — two conditions on steps that agree wherever an invariant
  holds.
-/

namespace ShortLinks

variable {State Step : Type} {next : State → Step → State}

/-- Every step of a run is allowed in the state that it is made in. -/
def Along (next : State → Step → State) (allowed : State → Step → Prop) :
    State → List Step → Prop
  | _, [] => True
  | state, step :: rest => allowed state step ∧ Along next allowed (next state step) rest

/-- A property holds at the start of a run and after every step. -/
def Throughout (next : State → Step → State) (holds : State → Prop) : State → List Step → Prop
  | state, [] => holds state
  | state, step :: rest => holds state ∧ Throughout next holds (next state step) rest

variable {allowed : State → Step → Prop} {holds : State → Prop}

/-- What allowed steps preserve holds throughout a run of them. -/
theorem throughout_of_step
    (preserved : ∀ state step, holds state → allowed state step → holds (next state step))
    {steps : List Step} {state : State} (start : holds state)
    (along : Along next allowed state steps) : Throughout next holds state steps := by
  induction steps generalizing state with
  | nil => exact start
  | cons step rest ih => exact ⟨start, ih (preserved state step start along.1) along.2⟩

theorem along_true (state : State) (steps : List Step) :
    Along next (fun _ _ => True) state steps := by
  induction steps generalizing state with
  | nil => exact trivial
  | cons step rest ih => exact ⟨trivial, ih (next state step)⟩

/-- If regular steps preserve a property and are allowed wherever it holds, all steps of a regular
run are allowed. -/
theorem Along.imp {regular : State → Step → Prop}
    (preserved : ∀ state step, holds state → regular state step → holds (next state step))
    (allows : ∀ state step, holds state → regular state step → allowed state step)
    {steps : List Step} {state : State} (start : holds state)
    (along : Along next regular state steps) : Along next allowed state steps := by
  induction steps generalizing state with
  | nil => exact trivial
  | cons step rest ih =>
      exact ⟨allows state step start along.1, ih (preserved state step start along.1) along.2⟩

/-- If every step preserves a property and is allowed wherever it holds, all steps are allowed. -/
theorem along_of_step (preserved : ∀ state step, holds state → holds (next state step))
    (allows : ∀ state step, holds state → allowed state step)
    {steps : List Step} {state : State} (start : holds state) :
    Along next allowed state steps :=
  (along_true state steps).imp (fun state step holds _ => preserved state step holds)
    (fun state step holds _ => allows state step holds) start

theorem along_append {first later : List Step} {state : State} :
    Along next allowed state (first ++ later) ↔
      Along next allowed state first ∧ Along next allowed (first.foldl next state) later := by
  induction first generalizing state with
  | nil => exact (and_iff_right trivial).symm
  | cons step rest ih => rw [List.cons_append, Along, Along, ih, and_assoc, List.foldl_cons]

theorem Along.and {other : State → Step → Prop} {steps : List Step} {state : State}
    (along : Along next allowed state steps) (also_ : Along next other state steps) :
    Along next (fun state step => allowed state step ∧ other state step) state steps := by
  induction steps generalizing state with
  | nil => exact trivial
  | cons step rest ih => exact ⟨⟨along.1, also_.1⟩, ih along.2 also_.2⟩

/-- A condition that holds wherever a run is cut holds along the run. -/
theorem along_of_cut {steps : List Step} {state : State}
    (cut : ∀ (before : List Step) (step : Step) (after : List Step),
      steps = before ++ step :: after → allowed (before.foldl next state) step) :
    Along next allowed state steps := by
  induction steps generalizing state with
  | nil => exact trivial
  | cons step rest ih =>
      refine ⟨cut [] step rest rfl, ih fun before later after same => ?_⟩
      exact cut (step :: before) later after (by rw [same, List.cons_append])

/-- What every step preserves holds at the end of a run. -/
theorem foldl_of_step (preserved : ∀ state step, holds state → holds (next state step))
    {state : State} (start : holds state) (steps : List Step) :
    holds (steps.foldl next state) := by
  induction steps generalizing state with
  | nil => exact start
  | cons step rest ih => exact ih (preserved state step start)

theorem Throughout.imp {weaker : State → Prop} (implies : ∀ state, holds state → weaker state)
    {steps : List Step} {state : State} (throughout : Throughout next holds state steps) :
    Throughout next weaker state steps := by
  induction steps generalizing state with
  | nil => exact implies state throughout
  | cons step rest ih => exact ⟨implies state throughout.1, ih throughout.2⟩

theorem Throughout.start {steps : List Step} {state : State}
    (throughout : Throughout next holds state steps) : holds state := by
  cases steps with
  | nil => exact throughout
  | cons => exact throughout.1

theorem Throughout.last {steps : List Step} {state : State}
    (throughout : Throughout next holds state steps) : holds (steps.foldl next state) := by
  induction steps generalizing state with
  | nil => exact throughout
  | cons step rest ih => exact ih throughout.2

/-- A property that a step keeps exactly when it is allowed holds throughout a run exactly when
all steps are allowed. -/
theorem throughout_iff_along {inv : State → Prop}
    (preserved : ∀ state step, inv state → inv (next state step))
    (kept : ∀ state step, inv state → holds state → (holds (next state step) ↔ allowed state step))
    {steps : List Step} {state : State} (start : inv state) (holds_start : holds state) :
    Throughout next holds state steps ↔ Along next allowed state steps := by
  induction steps generalizing state with
  | nil => exact ⟨fun _ => trivial, fun _ => holds_start⟩
  | cons step rest ih =>
      have tail (holds_next : holds (next state step)) :=
        ih (preserved state step start) holds_next
      constructor
      · rintro ⟨-, throughout⟩
        have holds_next := throughout.start
        exact ⟨(kept state step start holds_start).mp holds_next,
          (tail holds_next).mp throughout⟩
      · rintro ⟨good, along⟩
        have holds_next := (kept state step start holds_start).mpr good
        exact ⟨holds_start, (tail holds_next).mpr along⟩

/-- In a regular run, a property that a step keeps exactly when it is allowed holds throughout
exactly when all steps are allowed. The invariant that implies the property need survive only the
steps that are allowed. -/
theorem throughout_iff_along_of_along {inv : State → Prop} {regular : State → Step → Prop}
    (implies : ∀ state, inv state → holds state)
    (kept : ∀ state step, inv state → regular state step →
      (holds (next state step) ↔ allowed state step))
    (preserved : ∀ state step, inv state → regular state step → allowed state step →
      inv (next state step))
    {steps : List Step} {state : State} (start : inv state)
    (along : Along next regular state steps) :
    Throughout next holds state steps ↔ Along next allowed state steps := by
  induction steps generalizing state with
  | nil => exact iff_of_true (implies state start) trivial
  | cons step rest ih =>
      have tail (good : allowed state step) :=
        ih (preserved state step start along.1 good) along.2
      constructor
      · rintro ⟨-, throughout⟩
        have good := (kept state step start along.1).mp throughout.start
        exact ⟨good, (tail good).mp throughout⟩
      · rintro ⟨good, later⟩
        exact ⟨implies state start, (tail good).mpr later⟩

/-! ### Properties that last -/

/-- Whenever a property holds in a run, it holds throughout the rest of it. -/
def Lasting (next : State → Step → State) (holds : State → Prop) : State → List Step → Prop
  | _, [] => True
  | state, step :: rest =>
      (holds state → Throughout next holds state (step :: rest)) ∧
        Lasting next holds (next state step) rest

theorem Lasting.throughout {steps : List Step} {state : State}
    (lasting : Lasting next holds state steps) (start : holds state) :
    Throughout next holds state steps := by
  cases steps with
  | nil => exact start
  | cons step rest => exact lasting.1 start

/-- Every property of a family lasts exactly when every step keeps each of them. -/
theorem lasting_iff_along {Index : Type} {family : Index → State → Prop} {steps : List Step}
    {state : State} :
    (∀ i, Lasting next (family i) state steps) ↔
      Along next (fun state step => ∀ i, family i state → family i (next state step)) state
        steps := by
  induction steps generalizing state with
  | nil => simp [Lasting, Along]
  | cons step rest ih =>
      rw [Along, ← ih]
      constructor
      · intro lasting
        exact ⟨fun i now => ((lasting i).1 now).2.start, fun i => (lasting i).2⟩
      · rintro ⟨kept, lasting⟩ i
        exact ⟨fun now => ⟨now, (lasting i).throughout (kept i now)⟩, lasting i⟩

/-- In a regular run, conditions on steps that agree wherever an invariant holds allow the same
runs. The invariant need survive only the steps that are allowed. -/
theorem along_congr_of_along {inv : State → Prop} {regular other : State → Step → Prop}
    (same : ∀ state step, inv state → regular state step →
      (other state step ↔ allowed state step))
    (preserved : ∀ state step, inv state → regular state step → allowed state step →
      inv (next state step))
    {steps : List Step} {state : State} (start : inv state)
    (along : Along next regular state steps) :
    Along next other state steps ↔ Along next allowed state steps := by
  induction steps generalizing state with
  | nil => rfl
  | cons step rest ih =>
      rw [Along, Along, same state step start along.1]
      exact and_congr_right fun good => ih (preserved state step start along.1 good) along.2

/-- Conditions on steps that agree wherever an invariant holds allow the same runs. -/
theorem along_congr {inv : State → Prop} {other : State → Step → Prop}
    (same : ∀ state step, inv state → (other state step ↔ allowed state step))
    (preserved : ∀ state step, inv state → allowed state step → inv (next state step))
    {steps : List Step} {state : State} (start : inv state) :
    Along next other state steps ↔ Along next allowed state steps :=
  along_congr_of_along (fun state step holds _ => same state step holds)
    (fun state step holds _ => preserved state step holds) start (along_true state steps)

end ShortLinks
