/-
# Pipelines

A pipeline is a list of policies with a slot somewhere in it and a sender at its end.  It is
composed once; a call that brings a policy of its own for the slot gets the part above the
slot composed anew over the part below.
-/
import QueueClient.Credential.Basic
import QueueClient.Pipeline.Options
import QueueClient.Retry.Stage
import QueueClient.Stage.RequestId
import QueueClient.Stage.Telemetry

namespace QueueClient

/-- The name that stands for the slot. -/
def slotName : String := "method_marker"

/-- The policy that adds no stage. -/
def Policy.slotMarker : Policy := ⟨slotName, fun next _ => next⟩

/-- What is behind the last stage: requests must not get here. -/
def endOfPipeline : Stage := fun _ _ =>
  .done (.error (.configuration "request reached the end of the pipeline without being sent"
    ⟨some "http_sender", none, some "pipeline"⟩))

/-- The stages of policies in front of a last stage. -/
def compose (policies : List Policy) (last : Stage) (log : Logger) : Stage :=
  policies.foldr (fun p next => p.create next log) last

/-- A pipeline. -/
structure Pipeline where
  /-- The policies above the slot, first to see a request first. -/
  upper : List Policy
  /-- The policies below the slot. -/
  lower : List Policy
  /-- The policy at the end. -/
  sender : Policy
  /-- The pooled sender that the pipeline made for itself, if it did. -/
  own : Option HttpSender
  /-- The logging of all stages. -/
  log : Logger

namespace Pipeline

/-- The stages below the slot. -/
def lowerStage (p : Pipeline) : Stage :=
  compose p.lower (p.sender.create endOfPipeline p.log) p.log

/-- The whole chain. -/
def head (p : Pipeline) : Stage := compose p.upper p.lowerStage p.log

/-- Sends a request. -/
def send (p : Pipeline) (ctx : Context) (r : Request) : Activity Outcome := p.head ctx r

/-- Sends a request with a policy in the slot, for this request only. -/
def sendWith (p : Pipeline) (method : Policy) (ctx : Context) (r : Request) : Activity Outcome :=
  compose p.upper (method.create p.lowerStage p.log) p.log ctx r

/-- The names of the policies, from the caller's side to the sender, with the slot's name at its
place. -/
def policyNames (p : Pipeline) : List String :=
  p.upper.map (·.name) ++ [slotName] ++ p.lower.map (·.name) ++ [p.sender.name]

/-- A short description. -/
def describe (p : Pipeline) : String :=
  "Pipeline \x7b policies: [" ++ ", ".intercalate (p.policyNames.map Text.quoted) ++ "] \x7d"

/-- Shuts down the sender that the pipeline made for itself. -/
def shutDown (p : Pipeline) : Activity Unit :=
  match p.own with
  | some s => s.shutDown p.log.collector
  | none => .done ()

/-- The event of a pipeline being composed. -/
def composedEvent (p : Pipeline) : TraceEvent :=
  { level := .debug, target := "queue_storage::pipeline"
    fields := [
      ("upper", toString p.upper.length), ("lower", toString p.lower.length),
      ("sender", Text.quoted p.sender.name), ("message", "pipeline composed")] }

end Pipeline

/-! ## Building -/

/-- A pipeline that is being built. -/
structure PipelineBuilder where
  /-- The policies so far. -/
  policies : List Policy
  /-- Before which of them the slot is, if it has a place. -/
  slot : Option Nat

namespace PipelineBuilder

/-- No policies. -/
def empty : PipelineBuilder := ⟨[], none⟩

/-- One more policy at the end. -/
def policy (b : PipelineBuilder) (p : Policy) : PipelineBuilder :=
  { b with policies := b.policies ++ [p] }

/-- Puts the slot at the current end; an earlier place is given up. -/
def markSlot (b : PipelineBuilder) : PipelineBuilder := { b with slot := some b.policies.length }

/-- Where the slot is: at its place, or at the end without one. -/
def slotIndex (b : PipelineBuilder) : Nat := b.slot.getD b.policies.length

/-- The pipeline that ends in a sender. -/
def onto (b : PipelineBuilder) (sender : Policy) (own : Option HttpSender) (log : Logger) :
    Pipeline :=
  ⟨b.policies.take b.slotIndex, b.policies.drop b.slotIndex, sender, own, log⟩

/-- Leaves the event of a pipeline being composed. -/
def announce (p : Pipeline) : Activity (Except Error Pipeline) :=
  .act (.record (p.log.collector.record p.composedEvent)) fun _ => .done (.ok p)

/-- The finished pipeline: over the sender of the options, or over a pooled one of its own. -/
def build (b : PipelineBuilder) (o : PipelineOptions) (collector : Collector) (net : Network) :
    Activity (Except Error Pipeline) :=
  let log : Logger := ⟨o.sink, collector⟩
  match o.sender with
  | some sender => announce (b.onto sender none log)
  | none =>
    (HttpSender.new collector o.transport).bind fun
      | .error e => .done (.error e)
      | .ok s => announce (b.onto (s.policy net) (some s) log)

end PipelineBuilder

/-! ## The default chain -/

/-- The error of a pipeline without a credential. -/
def missingCredential : Error :=
  .configuration "a credential is required; use AnonymousCredential for public or SAS access"
    ⟨some "credential", none, some "pipeline"⟩

/-- The policies of the default chain, with the slot between signing and the request log. -/
def defaultBuilder (agent : HeaderValue) (credential : Credential) (retry : RetryOptions)
    (requestLog : RequestLogOptions) : PipelineBuilder :=
  let b := PipelineBuilder.empty
    |>.policy (Telemetry.policy agent)
    |>.policy RequestId.policy
    |>.policy (Retry.policy retry)
  let b := if credential.isAnonymous then b else b.policy credential.policy
  b.markSlot.policy (RequestLog.policy requestLog)

/-- The default pipeline. -/
def Pipeline.new (credential : Option Credential) (o : PipelineOptions) (collector : Collector)
    (net : Network) : Activity (Except Error Pipeline) :=
  match credential with
  | none => .done (.error missingCredential)
  | some c =>
    match Telemetry.userAgent o.telemetry with
    | .error e => .done (.error e)
    | .ok agent => (defaultBuilder agent c o.retry o.requestLog).build o collector net

end QueueClient
