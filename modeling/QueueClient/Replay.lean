/-
# Sending a request again

Each try sends a copy of the request.  Copies share the stream of their body, so a request can
be copied and its payload taken only until one of the copies has been sent.
-/
import QueueClient.Error

namespace QueueClient.Request

/-- A copy of a request for a try. -/
def rewind (r : Request) (s : Streams) (attempt : Nat) : Except Error Request :=
  if r.body.canReplay s then .ok r else .error (.bodyNotReplayable attempt)

/-- What there is to send of a request in a try, and the streams that are left. -/
def payload (r : Request) (s : Streams) (attempt : Nat) :
    Except Error (Option Payload) × Streams :=
  match r.body.take s with
  | (some p, s) => (.ok p, s)
  | (none, s) => (.error (.bodyNotReplayable attempt), s)

end QueueClient.Request
