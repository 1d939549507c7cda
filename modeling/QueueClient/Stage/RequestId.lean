/-
# Request ids

Every request carries an id, so that what client and service write down about it can be
brought together.  Without one from the caller the library makes one up and remembers that it
did: a made-up id is replaced for each new try.
-/
import QueueClient.Stage.Basic

namespace QueueClient.RequestId

/-- The request with an id that was made up. -/
def mark (r : Request) (id : String) : Request :=
  { r with headers := r.headers.insert clientRequestIdHeader (Utf8.encode id), generatedId := true }

/-- Makes up an id for a request without one. -/
def stage (next : Stage) : Stage := fun ctx r =>
  if r.headers.contains clientRequestIdHeader then next ctx r
  else .act .newId fun id => next ctx (mark r id)

/-- The policy. -/
def policy : Policy := ⟨"unique_request_id", fun next _ => stage next⟩

end QueueClient.RequestId
