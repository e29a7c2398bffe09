import Mathlib.Algebra.Group.Nat.Defs
import Mathlib.Logic.Function.Iterate
import Mathlib.Order.Bounds.Defs
import Mathlib.Data.Nat.Find
import ShortLinks.Database.Retry

/-!
What a run calls, where it pauses, and what it answers.

* `Decides` — an outcome after which nothing is tried again.
* `RetryPolicy.EndsAt`, `run_eq` — a run ends with the first call that decides, or else with the
  last one that the policy allows. Before each repetition there is one pause, and their numbers
  ascend.
* `RetryLoop` — the same run, move by move. The repetitions are counted in a word of 32 bits, which
  may overflow, and the counter is compared with the limit before it goes up.
* `loopAfter_repeating`, `loopAfter_ended` — where the loop stands after so many rounds.
* `run_as_configured` — so a run does what its policy says, and the counter never overflows.
-/

namespace ShortLinks

/-- Nothing is tried again after this outcome: it is a success, or a failure that does not pass. -/
def Decides {α : Type} : Except DatabaseFailure α → Prop
  | .ok _ => True
  | .error failure => Transient.of? failure = none

namespace RetryPolicy

variable {α : Type} {p : RetryPolicy} {outcome : Nat → Except DatabaseFailure α}

/-! ### The last call -/

section From

variable {left attempt last : Nat}

theorem runFrom_of_decides (decides : Decides (outcome attempt)) :
    runFrom outcome left attempt = ⟨attempt + 1, [], outcome attempt⟩ := by
  unfold runFrom
  cases answered : outcome attempt with
  | ok value => rfl
  | error failure =>
      rw [answered] at decides
      have lasting : Transient.of? failure = none := decides
      simp only [lasting]

theorem runFrom_zero : runFrom outcome 0 attempt = ⟨attempt + 1, [], outcome attempt⟩ := by
  unfold runFrom
  cases outcome attempt with
  | ok value => rfl
  | error failure =>
      dsimp only
      cases Transient.of? failure <;> rfl

theorem runFrom_succ (passing : ¬ Decides (outcome attempt)) :
    runFrom outcome (left + 1) attempt =
      { runFrom outcome left (attempt + 1) with
        pauses := (attempt + 1) :: (runFrom outcome left (attempt + 1)).pauses } := by
  cases answered : outcome attempt with
  | ok value =>
      rw [answered] at passing
      exact absurd trivial passing
  | error failure =>
      rw [answered] at passing
      obtain ⟨kind, found⟩ := Option.ne_none_iff_exists'.mp passing
      rw [runFrom, answered]
      simp only [found]

/-- What a run does from some call on, if its last call is this one. -/
theorem runFrom_eq (reached : attempt ≤ last) (budget : last ≤ attempt + left)
    (passing : ∀ i, attempt ≤ i → i < last → ¬ Decides (outcome i))
    (ends : Decides (outcome last) ∨ last = attempt + left) :
    runFrom outcome left attempt
      = ⟨last + 1, List.range' (attempt + 1) (last - attempt), outcome last⟩ := by
  induction left generalizing attempt with
  | zero =>
      obtain rfl : attempt = last := by omega
      simpa using runFrom_zero
  | succ left ih =>
      rcases Nat.eq_or_lt_of_le reached with rfl | later
      · have decides : Decides (outcome attempt) := ends.resolve_right (by omega)
        simpa using runFrom_of_decides decides
      · have next : attempt + 1 ≤ last := later
        have rest := ih next (by omega) (fun i _ => passing i (by omega))
          (ends.imp_right (by omega))
        rw [runFrom_succ (passing attempt (le_refl attempt) later), rest]
        obtain ⟨more, steps⟩ : ∃ more, last - attempt = more + 1 := ⟨last - (attempt + 1), by omega⟩
        rw [steps, List.range'_succ, show last - (attempt + 1) = more by omega]

end From

/-- A run ends with this call: all earlier ones failed in passing, and it decides or is the last one
that the policy allows. -/
structure EndsAt (p : RetryPolicy) (outcome : Nat → Except DatabaseFailure α) (last : Nat) :
    Prop where
  budget : last ≤ p.maxRetries
  passing : ∀ i < last, ¬ Decides (outcome i)
  ends : Decides (outcome last) ∨ last = p.maxRetries

theorem exists_endsAt (p : RetryPolicy) (outcome : Nat → Except DatabaseFailure α) :
    ∃ last, p.EndsAt outcome last := by
  classical
  have some_last : ∃ i, Decides (outcome i) ∨ i = p.maxRetries := ⟨p.maxRetries, .inr rfl⟩
  refine ⟨Nat.find some_last, ?_, ?_, Nat.find_spec some_last⟩
  · exact Nat.find_min' some_last (.inr rfl)
  · intro i earlier decides
    exact Nat.find_min some_last earlier (.inl decides)

theorem EndsAt.eq_of_isLeast {last i : Nat} (ends : p.EndsAt outcome last)
    (least : IsLeast {i | Decides (outcome i)} i) (budget : i ≤ p.maxRetries) : last = i := by
  apply le_antisymm
  · by_contra later
    exact ends.passing i (by omega) least.1
  · rcases ends.ends with decides | spent
    · exact least.2 decides
    · omega

theorem EndsAt.eq_maxRetries {last : Nat} (ends : p.EndsAt outcome last)
    (beyond : ∀ i, IsLeast {i | Decides (outcome i)} i → p.maxRetries < i) :
    last = p.maxRetries := by
  apply ends.ends.resolve_left
  intro decides
  have least : IsLeast {i | Decides (outcome i)} last := by
    refine ⟨decides, ?_⟩
    intro i decidesToo
    by_contra earlier
    exact ends.passing i (by omega) decidesToo
  have budget := ends.budget
  have spent := beyond last least
  omega

/-- **A run ends with its last call**, and pauses before every other one but the first. -/
theorem run_eq {last : Nat} (ends : p.EndsAt outcome last) :
    p.run outcome = ⟨last + 1, List.range' 1 last, outcome last⟩ := by
  simpa [run] using runFrom_eq (Nat.zero_le last) (by simpa using ends.budget)
    (fun i _ => ends.passing i) (by simpa using ends.ends)

end RetryPolicy

/-! ### Move by move -/

/-- What a run does, in order. -/
inductive RetryMove where
  | call (index : Nat)
  | pause (number : Nat)
deriving DecidableEq

/-- Where a run stands after a round. -/
inductive RetryStage (α : Type) where
  | calling
  | answered (result : Except DatabaseFailure α)
  /-- The counter of the repetitions left its 32 bits. -/
  | overflowed

/-- A run on its way, with its counter of the repetitions in a word of 32 bits. -/
structure RetryLoop (α : Type) where
  attempt : UInt32 := 0
  calls : Nat := 0
  moves : List RetryMove := []
  stage : RetryStage α := .calling

namespace RetryLoop

variable {α : Type} {limit : UInt32} {outcome : Nat → Except DatabaseFailure α} {loop : RetryLoop α}
  {n : Nat}

/-- One round: a call, and a pause if it is to be repeated. The counter is compared with the limit
before it goes up. -/
def round (limit : UInt32) (outcome : Nat → Except DatabaseFailure α) (loop : RetryLoop α) :
    RetryLoop α :=
  match loop.stage with
  | .calling =>
      let called : RetryLoop α :=
        { loop with calls := loop.calls + 1, moves := loop.moves ++ [.call loop.calls] }
      match outcome loop.calls with
      | .ok value => { called with stage := .answered (.ok value) }
      | .error failure =>
          if Transient.of? failure = none ∨ limit ≤ loop.attempt then
            { called with stage := .answered (.error failure) }
          else if loop.attempt.toNat + 1 = 2 ^ 32 then { called with stage := .overflowed }
          else
            { called with
              attempt := loop.attempt + 1
              moves := called.moves ++ [.pause (loop.attempt + 1).toNat] }
  | _ => loop

/-- The moves of rounds that were all repeated. -/
def rounds (n : Nat) : List RetryMove :=
  (List.range n).flatMap fun i => [.call i, .pause (i + 1)]

theorem rounds_succ (n : Nat) : rounds (n + 1) = rounds n ++ [.call n, .pause (n + 1)] := by
  simp [rounds, List.range_succ]

/-- The loop has repeated so many rounds and is about to call. -/
structure Repeating (loop : RetryLoop α) (n : Nat) : Prop where
  attempt : loop.attempt.toNat = n
  calls : loop.calls = n
  moves : loop.moves = rounds n
  stage : loop.stage = .calling

theorem Repeating.again (repeating : loop.Repeating n) (passing : ¬ Decides (outcome n))
    (left : n < limit.toNat) : (loop.round limit outcome).Repeating (n + 1) := by
  cases answered : outcome n with
  | ok value =>
      rw [answered] at passing
      exact absurd trivial passing
  | error failure =>
      rw [answered] at passing
      have goesOn : ¬ (Transient.of? failure = none ∨ limit ≤ loop.attempt) := by
        rintro (lasting | spent)
        · exact passing lasting
        · rw [UInt32.le_iff_toNat_le, repeating.attempt] at spent
          omega
      have bounded : limit.toNat < 2 ^ 32 := limit.toNat_lt
      have fits : ¬ loop.attempt.toNat + 1 = 2 ^ 32 := by
        rw [repeating.attempt]
        omega
      have counted : (loop.attempt + 1).toNat = n + 1 := by
        rw [UInt32.toNat_add, UInt32.toNat_one, repeating.attempt]
        exact Nat.mod_eq_of_lt (by omega)
      have turn : loop.round limit outcome
          = ⟨loop.attempt + 1, n + 1, rounds (n + 1), .calling⟩ := by
        simp only [round, repeating.stage, repeating.calls, repeating.moves, answered,
          if_neg goesOn, if_neg fits, counted, rounds_succ]
        simp
      rw [turn]
      exact ⟨counted, rfl, rfl, rfl⟩

/-- The loop has come to its end with this call. -/
structure Ended (loop : RetryLoop α) (outcome : Nat → Except DatabaseFailure α) (last : Nat) :
    Prop where
  moves : loop.moves = rounds last ++ [.call last]
  stage : loop.stage = .answered (outcome last)

theorem Repeating.ended (repeating : loop.Repeating n)
    (ends : Decides (outcome n) ∨ n = limit.toNat) :
    (loop.round limit outcome).Ended outcome n := by
  cases answered : outcome n with
  | ok value =>
      have turn : loop.round limit outcome
          = ⟨loop.attempt, n + 1, rounds n ++ [.call n], .answered (.ok value)⟩ := by
        simp only [round, repeating.stage, repeating.calls, repeating.moves, answered]
      rw [turn]
      exact ⟨rfl, by rw [answered]⟩
  | error failure =>
      rw [answered] at ends
      have stops : Transient.of? failure = none ∨ limit ≤ loop.attempt := by
        refine ends.imp id fun spent => ?_
        rw [UInt32.le_iff_toNat_le, repeating.attempt, spent]
      have turn : loop.round limit outcome
          = ⟨loop.attempt, n + 1, rounds n ++ [.call n], .answered (.error failure)⟩ := by
        simp only [round, repeating.stage, repeating.calls, repeating.moves, answered, if_pos stops]
      rw [turn]
      exact ⟨rfl, by rw [answered]⟩

theorem Ended.round (ended : loop.Ended outcome n) : loop.round limit outcome = loop := by
  simp only [RetryLoop.round, ended.stage]

end RetryLoop

namespace RetryPolicy

variable {α : Type} {p : RetryPolicy} {outcome : Nat → Except DatabaseFailure α} {last n : Nat}

/-- The loop after so many rounds. -/
def loopAfter (p : RetryPolicy) (outcome : Nat → Except DatabaseFailure α) (n : Nat) :
    RetryLoop α :=
  (RetryLoop.round (UInt32.ofNat p.maxRetries) outcome)^[n] {}

/-- Up to its last call the loop repeats, and its counter is the number of rounds. -/
theorem loopAfter_repeating (word : p.maxRetries < 2 ^ 32) (ends : p.EndsAt outcome last)
    (upTo : n ≤ last) : (p.loopAfter outcome n).Repeating n := by
  induction n with
  | zero => exact ⟨rfl, rfl, rfl, rfl⟩
  | succ n ih =>
      rw [loopAfter, Function.iterate_succ_apply']
      have left : n < (UInt32.ofNat p.maxRetries).toNat := by
        rw [UInt32.toNat_ofNat_of_lt' word]
        exact lt_of_lt_of_le upTo ends.budget
      exact (ih (Nat.le_of_succ_le upTo)).again (ends.passing n upTo) left

/-- From then on it stands still. -/
theorem loopAfter_ended (word : p.maxRetries < 2 ^ 32) (ends : p.EndsAt outcome last)
    (beyond : last < n) : (p.loopAfter outcome n).Ended outcome last := by
  induction n, beyond using Nat.le_induction with
  | base =>
      rw [loopAfter, Function.iterate_succ_apply']
      refine (loopAfter_repeating word ends (le_refl last)).ended ?_
      rw [UInt32.toNat_ofNat_of_lt' word]
      exact ends.ends
  | succ n _ ih =>
      rw [loopAfter, Function.iterate_succ_apply']
      rw [loopAfter] at ih
      rwa [ih.round]

/-! ### What the policy says -/

/-- A run goes as its policy says. -/
structure AsConfigured (p : RetryPolicy) (outcome : Nat → Except DatabaseFailure α) (run : Run α) :
    Prop where
  /-- The first outcome that decides is the answer, if the policy allows as many repetitions. -/
  decided : ∀ i, IsLeast {i | Decides (outcome i)} i → i ≤ p.maxRetries →
    run.calls = i + 1 ∧ run.result = outcome i
  /-- Otherwise it repeats as often as it may, and the last outcome is the answer. -/
  exhausted : (∀ i, IsLeast {i | Decides (outcome i)} i → p.maxRetries < i) →
    run.calls = p.maxRetries + 1 ∧ run.result = outcome p.maxRetries
  /-- Before each repetition there is a pause, and they are numbered from one on. -/
  pauses : run.pauses = List.range' 1 (run.calls - 1)
  /-- The loop calls in every round up to the last one, and then it stands still for good. -/
  calling : ∀ n < run.calls, (p.loopAfter outcome n).stage = .calling
  answered : ∀ n, run.calls ≤ n → (p.loopAfter outcome n).stage = .answered run.result
  /-- Calls and pauses take turns. -/
  moves : ∀ n, run.calls ≤ n → (p.loopAfter outcome n).moves
    = (List.range (run.calls - 1)).flatMap (fun i => [.call i, .pause (i + 1)])
      ++ [.call (run.calls - 1)]
  /-- The counter never leaves its 32 bits. -/
  fits : ∀ n, (p.loopAfter outcome n).stage ≠ .overflowed

/-- **A run goes as its policy says**, whatever the outcomes of its calls are. -/
theorem run_as_configured (p : RetryPolicy) (word : p.maxRetries < 2 ^ 32)
    (outcome : Nat → Except DatabaseFailure α) : p.AsConfigured outcome (p.run outcome) := by
  obtain ⟨last, ends⟩ := p.exists_endsAt outcome
  have repeating {n : Nat} (upTo : n < last + 1) :=
    loopAfter_repeating word ends (Nat.le_of_lt_succ upTo)
  have ended {n : Nat} (beyond : last + 1 ≤ n) := loopAfter_ended word ends beyond
  rw [run_eq ends]
  constructor
  case decided =>
    intro i least budget
    obtain rfl := ends.eq_of_isLeast least budget
    exact ⟨rfl, rfl⟩
  case exhausted =>
    intro beyond
    obtain rfl := ends.eq_maxRetries beyond
    exact ⟨rfl, rfl⟩
  case pauses => rfl
  case calling =>
    intro n upTo
    exact (repeating upTo).stage
  case answered =>
    intro n beyond
    exact (ended beyond).stage
  case moves =>
    intro n beyond
    exact (ended beyond).moves
  case fits =>
    intro n
    rcases Nat.lt_or_ge n (last + 1) with upTo | beyond
    · rw [(repeating upTo).stage]
      nofun
    · rw [(ended beyond).stage]
      nofun

/-- A policy that repeats as often as the counter can tell. -/
def mostRetries : RetryPolicy := { maxRetries := 2 ^ 32 - 1 }

/-- A database that is never reached. -/
def neverReached : Nat → Except DatabaseFailure Unit := fun _ => .error .acquireTimeout

theorem run_as_configured_neverReached :
    mostRetries.maxRetries < 2 ^ 32 ∧
      mostRetries.AsConfigured neverReached (mostRetries.run neverReached) ∧
      (mostRetries.run neverReached).calls = 2 ^ 32 := by
  have word : mostRetries.maxRetries < 2 ^ 32 := by decide
  have all : mostRetries.maxRetries + 1 = 2 ^ 32 := by decide
  have undecided (i : Nat) : ¬ Decides (neverReached i) := nofun
  have configured := run_as_configured mostRetries word neverReached
  generalize mostRetries.run neverReached = run at configured ⊢
  have exhausted := configured.exhausted fun i least => absurd least.1 (undecided i)
  exact ⟨word, configured, exhausted.1.trans all⟩

/-- Two failures in passing, and then a success. -/
example : run {} (fun n => if n < 2 then .error .acquireTimeout else .ok n) = ⟨3, [1, 2], .ok 2⟩ :=
  rfl

end RetryPolicy

end ShortLinks
