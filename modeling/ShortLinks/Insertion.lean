import ShortLinks.Fault.Basic
import ShortLinks.Link.Basic

/-!
What an insertion answers. A record whose unique fields are taken is not stored; the answer then
holds the record that was there before.
-/

namespace ShortLinks

/-- The outcome of inserting one record. -/
inductive Inserted (α : Type) where
  /-- The record was stored, as it stands here. -/
  | created (record : α)
  /-- This record was there before and is kept. -/
  | existing (record : α)
deriving DecidableEq

namespace Inserted

variable {α β : Type}

/-- Was there such a record before? -/
def isConflict : Inserted α → Bool
  | .created _ => false
  | .existing _ => true

/-- The record that is stored now. -/
def record : Inserted α → α
  | .created r => r
  | .existing r => r

/-- The outcome with its record changed. -/
def map (f : α → β) : Inserted α → Inserted β
  | .created r => .created (f r)
  | .existing r => .existing (f r)

/-- The stored record, where a record that was there before is a fault. -/
def toExcept : Inserted α → Except Fault α
  | .created r => .ok r
  | .existing _ => .error .alreadyExists

end Inserted

/-- The outcome of inserting a batch of links. -/
structure BatchReport where
  /-- How many links were stored. -/
  inserted : Nat := 0
  /-- The requested keys of the others, each with the link that stood in its way. -/
  skipped : List (String × Link) := []
deriving DecidableEq, Inhabited

/-- Was every link of the batch stored? -/
def BatchReport.isComplete (r : BatchReport) : Bool := r.skipped.isEmpty

end ShortLinks
