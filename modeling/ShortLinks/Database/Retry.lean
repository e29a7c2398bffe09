import ShortLinks.Database.Transient
import ShortLinks.Settings.Basic

/-!
Trying again. A call that fails in passing is repeated, at most as often as the policy allows;
before each repetition there is a pause that doubles from one to the next up to a limit, with a
random part of at most a quarter on top.
-/

namespace ShortLinks

/-- How often to try again, and how long to wait. -/
structure RetryPolicy where
  /-- The greatest number of repetitions, below 2^32. -/
  maxRetries : Nat := 3
  /-- The first pause in milliseconds, below 2^64. -/
  baseDelay : Nat := 100
  /-- The longest pause in milliseconds without its random part, below 2^64. -/
  maxDelay : Nat := 2000
deriving DecidableEq, Inhabited

/-- The policy that the storage settings ask for. -/
def StorageSettings.retryPolicy (s : StorageSettings) : RetryPolicy :=
  ⟨s.retryCount, s.retryBaseDelay, s.retryMaxDelay⟩

/-- The greatest number of 64 bits. -/
def top64 : Nat := Nat.pow 2 64 - 1

/-- The number, or the greatest one of 64 bits if it is beyond. -/
def saturate (n : Nat) : Nat := min n top64

/-- The power of two, within 64 bits. -/
def saturatingPow2 (exponent : Nat) : Nat := if exponent < 64 then Nat.pow 2 exponent else top64

namespace RetryPolicy

/-- The pause before the repetition with this number, counted from one, without its random
part. -/
def cappedDelay (p : RetryPolicy) (attempt : Nat) : Nat :=
  min (saturate (p.baseDelay * saturatingPow2 (attempt - 1))) p.maxDelay

/-- The greatest random part of a pause. -/
def maxJitter (p : RetryPolicy) (attempt : Nat) : Nat := p.cappedDelay attempt / 4

/-- The whole pause with this random part. -/
def delay (p : RetryPolicy) (attempt jitter : Nat) : Nat :=
  saturate (p.cappedDelay attempt + jitter)

/-- What a run did: how often it called, the numbers of the repetitions before which it paused,
and what came out. -/
structure Run (α : Type) where
  calls : Nat
  pauses : List Nat
  result : Except DatabaseFailure α

/-- The run from the call with index `attempt` on, with so many repetitions left. -/
def runFrom {α : Type} (outcome : Nat → Except DatabaseFailure α) : Nat → Nat → Run α
  | left, attempt =>
      match outcome attempt with
      | .ok value => ⟨attempt + 1, [], .ok value⟩
      | .error failure =>
          match Transient.of? failure, left with
          | some _, left + 1 =>
              let rest := runFrom outcome left (attempt + 1)
              { rest with pauses := (attempt + 1) :: rest.pauses }
          | _, _ => ⟨attempt + 1, [], .error failure⟩

/-- The run of an operation whose call with index `n` has the outcome `outcome n`. -/
def run {α : Type} (p : RetryPolicy) (outcome : Nat → Except DatabaseFailure α) : Run α :=
  runFrom outcome p.maxRetries 0

end RetryPolicy

end ShortLinks
