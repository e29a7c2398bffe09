import ShortLinks.Deletion.Request

/-!
The buffer of requests that wait to be carried out: one request per owner, in the order in which
the owners first came.
-/

namespace ShortLinks

/-- Gathered requests. -/
structure PendingBuffer where
  requests : List DeletionRequest := []
deriving DecidableEq, Inhabited

namespace PendingBuffer

/-- The requests with one more, merged into the first one of the same owner. -/
def gather (request : DeletionRequest) : List DeletionRequest → List DeletionRequest
  | [] => [request]
  | first :: rest =>
      if first.owner = request.owner then first.merge request :: rest
      else first :: gather request rest

/-- The buffer with one more request. -/
def push (buffer : PendingBuffer) (request : DeletionRequest) : PendingBuffer :=
  ⟨gather request buffer.requests⟩

/-- The number of keys that the requests ask for. -/
def keyCount (buffer : PendingBuffer) : Nat := (buffer.requests.flatMap (·.keys)).length

/-- Is nothing gathered? -/
def isEmpty (buffer : PendingBuffer) : Bool := buffer.requests.isEmpty

end PendingBuffer

end ShortLinks
