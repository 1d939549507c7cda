/-
# Telemetry

Every request says in its user agent which library sends it, behind what the application has
to say about itself.
-/
import QueueClient.Stage.Basic
import QueueClient.Text.Blank

namespace QueueClient.Telemetry

/-- The header. -/
def header : String := "user-agent"

/-- The library and the platform. -/
def platform : String := "queue-storage/0.3.0 (linux; x86_64)"

/-- The text for an application that calls itself by a value; an empty one adds nothing. -/
def agentText (value : String) : String :=
  let value := Text.trim value
  if value.isEmpty then platform else value ++ " " ++ platform

/-- The header value, unless the application's value cannot be carried in a header. -/
def userAgent (value : String) : Except Error HeaderValue :=
  match Headers.value? (agentText value) with
  | some v => .ok v
  | none =>
    .error (.configuration
      ("telemetry value is not a valid header value: " ++ HeaderFault.valueReason)
      ⟨some "telemetry.value", some value, some "telemetry_policy"⟩)

/-- Sets the user agent. -/
def stage (agent : HeaderValue) (next : Stage) : Stage := fun ctx r =>
  next ctx { r with headers := r.headers.insert header agent }

/-- The policy for a user agent. -/
def policy (agent : HeaderValue) : Policy := ⟨"telemetry", fun next _ => stage agent next⟩

end QueueClient.Telemetry
