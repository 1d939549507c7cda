/-
# The pooled sender

The last stage of a chain: it hands the request to the network.  A sender that is shut down
refuses every request before anything else is looked at; otherwise the context goes first, and
the exchange lasts no longer than the context.
-/
import QueueClient.Sender.Options
import QueueClient.Stage.Basic

namespace QueueClient

/-- What the network does with a request whose payload is taken from its body. -/
abbrev Network := Request → Option Payload → Activity (Except TransportError Response)

/-- Whether the name of a host has to be looked up; the machine itself is known without. -/
def isLookedUp : Option Host → Bool
  | some (.domain name) => name != "localhost"
  | _ => false

/-- A network that nobody can be reached over: names cannot be looked up, and no connection comes
about.  The first host to reach is the proxy, if there is one.  Requests that no sender could send
fail before. -/
def Network.unreachable (proxy : Option Url) : Network := fun r _ =>
  let fault :=
    if (r.url.scheme ≠ "http" ∧ r.url.scheme ≠ "https") ∨ ¬ Proxy.isSendable r.url then
      NetworkFault.invalidRequest
    else if isLookedUp (proxy.getD r.url).host then .dns
    else .connect
  .done (.error (.new fault "HTTP request failed"))

/-- A sender; copies belong to the same family. -/
structure HttpSender where
  /-- The family. -/
  family : Nat
deriving DecidableEq, Inhabited

namespace HttpSender

/-- The part of the program that trace events of senders come from. -/
def traceTarget : String := "queue_storage::transport::http"

/-- The event of a sender being ready. -/
def readyEvent (o : TransportOptions) : TraceEvent :=
  { level := .debug, target := traceTarget
    fields := [
      ("pool_max_idle_per_host", toString o.maxIdlePerHost.toNat),
      ("connect_timeout_ms", toString (o.effectiveConnectTimeout.millis % UInt64.size)),
      ("proxy", toString o.proxyUrl.isSome),
      ("message", "HTTP sender ready")] }

/-- The event of a family being shut down. -/
def shutDownEvent : TraceEvent :=
  { level := .debug, target := traceTarget
    fields := [("message", "HTTP sender shut down; idle connections released")] }

/-- A new sender of a family of its own. -/
def new (collector : Collector) (o : TransportOptions) : Activity (Except Error HttpSender) :=
  match o.check with
  | .error e => .done (.error e)
  | .ok () =>
    .act .openFamily fun family =>
      .act (.record (collector.record (readyEvent o))) fun _ => .done (.ok ⟨family⟩)

/-- Shuts the family of a sender down; only the first time leaves an event. -/
def shutDown (collector : Collector) (s : HttpSender) : Activity Unit :=
  .act (.shutDown s.family) fun (wasUp : Bool) =>
    if wasUp then .perform (.record (collector.record shutDownEvent)) else .done ()

/-- The refusal of a sender that is shut down. -/
def refusal : Error := .transport (.new .shutdown "HTTP sender has been shut down")

/-- The exchange of a request for a response. -/
def exchange (net : Network) (ctx : Context) (r : Request) : Activity Outcome :=
  .act (.payload r (max ctx.attempt 1)) fun
    | .error e => .done (.error e)
    | .ok payload => (net r payload).bind fun
      | .ok response => .done (.ok response)
      | .error e => .done (.error (.transport e))

/-- Sends a request. -/
def send (net : Network) (s : HttpSender) : Stage := fun ctx r =>
  .act (.isShut s.family) fun (shut : Bool) =>
    if shut then .done (.error refusal)
    else
      ((exchange net ctx r).untilDone ctx).bind fun
        | .ok outcome => .done outcome
        | .error reason => .done (.error (.cancelled reason))

/-- The name of the policy. -/
def policyName : String := "http_sender"

/-- The policy that sends; the next stage is not used. -/
def policy (net : Network) (s : HttpSender) : Policy := ⟨policyName, fun _ _ => s.send net⟩

/-- A short description. -/
def describe (shut : Bool) : String :=
  "HttpSender \x7b shutdown: " ++ toString shut ++ " \x7d"

end HttpSender

end QueueClient
