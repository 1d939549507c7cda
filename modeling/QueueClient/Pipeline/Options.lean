/-
# Pipeline options

Everything that a pipeline is set up with, and the short description of each part.
-/
import QueueClient.Retry.Options
import QueueClient.Sender.Basic
import QueueClient.Stage.RequestLog
import QueueClient.Text.Quoted

namespace QueueClient

/-- What a pipeline is set up with. -/
structure PipelineOptions where
  /-- Where log entries go; to the collector of trace events unless given. -/
  log : Option Sink
  /-- How often and how patiently requests are tried. -/
  retry : RetryOptions
  /-- The request log. -/
  requestLog : RequestLogOptions
  /-- What the application calls itself. -/
  telemetry : String
  /-- How to connect. -/
  transport : TransportOptions
  /-- The sender; a pooled one unless given. -/
  sender : Option Policy

namespace PipelineOptions

/-- The usual options. -/
def default : PipelineOptions := ⟨none, .unset, .default, "", .default, none⟩

instance : Inhabited PipelineOptions := ⟨default⟩

/-- Where log entries go. -/
def sink (o : PipelineOptions) : Sink := o.log.getD .trace

end PipelineOptions

/-! ## Descriptions -/

/-- A record with a name and fields. -/
def describeRecord (name : String) (fields : List (String × String)) : String :=
  name ++ " \x7b " ++ ", ".intercalate (fields.map fun f => f.1 ++ ": " ++ f.2) ++ " \x7d"

/-- A record that shows nothing but its name. -/
def describeOpaque (name : String) : String := name ++ " \x7b .. \x7d"

/-- The logging that stages are given, as far as it shows. -/
def Logger.describe : String := describeOpaque "PolicyOptions"

/-- A writer of log entries, as far as it shows. -/
def Sink.describeWriter : String := describeOpaque "FnSink"

/-- A value that may be absent. -/
def describeOption : Option String → String
  | some s => "Some(" ++ s ++ ")"
  | none => "None"

/-- Where log entries go, as far as that shows. -/
def describeLog (log : Option Sink) : String :=
  describeRecord "LogOptions" [("sink", if log.isSome then "\"<custom>\"" else "\"<tracing>\"")]

/-- The description of retry options. -/
def RetryOptions.describe (o : RetryOptions) : String :=
  describeRecord "RetryOptions" [
    ("policy", o.backoff.title), ("max_tries", toString o.maxTries.toNat),
    ("try_timeout", o.tryTimeout.compact), ("retry_delay", o.retryDelay.compact),
    ("max_retry_delay", o.maxRetryDelay.compact)]

/-- The description of request log options. -/
def RequestLogOptions.describe (o : RequestLogOptions) : String :=
  describeRecord "RequestLogOptions" [
    ("log_warning_if_try_over_threshold", describeOption (o.slowThreshold.map (·.compact)))]

/-- The description of transport options. -/
def TransportOptions.describe (o : TransportOptions) : String :=
  describeRecord "TransportOptions" [
    ("pool_max_idle_per_host", toString o.maxIdlePerHost.toNat),
    ("pool_idle_timeout", o.idleTimeout.compact), ("connect_timeout", o.connectTimeout.compact),
    ("tcp_keepalive", o.keepalive.compact), ("tls_handshake_timeout", o.handshakeTimeout.compact),
    ("proxy_url", describeOption (o.proxyUrl.map Text.quoted))]

/-- The description of all options. -/
def PipelineOptions.describe (o : PipelineOptions) : String :=
  describeRecord "PipelineOptions" [
    ("log", describeLog o.log), ("retry", o.retry.describe),
    ("request_log", o.requestLog.describe),
    ("telemetry", describeRecord "TelemetryOptions" [("value", Text.quoted o.telemetry)]),
    ("transport", o.transport.describe),
    ("http_sender", describeOption (o.sender.map fun p => Text.quoted p.name))]

end QueueClient
