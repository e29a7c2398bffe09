import ShortLinks.Store

/-!
Where gathered deletions go. A store carries them out; `Unsteady` is a sink before another one
that fails by a list, call for call.
-/

namespace ShortLinks

/-- A place that carries out deletions. -/
class DeletionSink (σ : Type) where
  apply (requests : List DeletionRequest) : Call σ Unit

/-- A store carries out deletions in its tables and its keeper. -/
instance {κ : Type} [Keeper κ] : DeletionSink (Store × κ) where
  apply requests s :=
    let o := s.1.deleteLinks s.2 requests
    (o.answer, o.store, o.keeper)

/-- A sink that takes every request and does nothing. -/
instance : DeletionSink Unit where
  apply _ s := (.ok (), s)

/-- A sink behind a list that says of each call to come whether it fails. -/
structure Unsteady (σ : Type) where
  inner : σ
  failures : List Bool := []

namespace Unsteady

/-- The fault of a call that fails by the list. -/
def refusal : Fault := ⟨.databaseConnection, "backend down"⟩

instance {σ : Type} [DeletionSink σ] : DeletionSink (Unsteady σ) where
  apply requests s :=
    if s.failures.headD false then (.error refusal, { s with failures := s.failures.tail })
    else
      let (answer, inner) := DeletionSink.apply requests s.inner
      (answer, ⟨inner, s.failures.tail⟩)

end Unsteady

end ShortLinks
