/-
# Options as JSON

Options are written as objects with a member for each field.  They are read from objects whose
members may be missing (the usual value is taken), in any order and mixed with unknown ones, but
none of them twice; and from arrays that give the fields in order and may stop early.
-/
import QueueClient.Json.Reader
import QueueClient.Pipeline.Options

namespace QueueClient.Settings

/-! ## Records -/

/-- A field of a record: its name, and the record with the field set to what a value says. -/
abbrev Field (α : Type) := String × (Json → α → Option α)

/-- The record with the members that have names of fields put in. -/
def putMembers {α : Type} (fields : List (Field α)) (seen : List String) (a : α) :
    List (Option String × Json) → Option α
  | [] => some a
  | (none, _) :: _ => none
  | (some key, v) :: rest =>
    match fields.lookup key with
    | none => putMembers fields seen a rest
    | some put =>
      if seen.contains key then none
      else
        match put v a with
        | some a' => putMembers fields (key :: seen) a' rest
        | none => none

/-- The record with its first fields set to the items of an array. -/
def putItems {α : Type} (a : α) : List (Field α) → List Json → Option α
  | _, [] => some a
  | [], _ :: _ => none
  | f :: fields, v :: rest =>
    match f.2 v a with
    | some a' => putItems a' fields rest
    | none => none

/-- The record that a value says, fields that it does not mention being as in `usual`. -/
def readRecord {α : Type} (fields : List (Field α)) (usual : α) : Json → Option α
  | .object members => putMembers fields [] usual members
  | .array items => putItems usual fields items
  | _ => none

/-! ## Single values -/

/-- A whole number below a bound. -/
def readNat (bound : Nat) : Json → Option Nat
  | .int n => if 0 ≤ n ∧ n.toNat < bound then some n.toNat else none
  | _ => none

/-- A text. -/
def readText : Json → Option String
  | .text s => s
  | _ => none

/-- A value that may be null. -/
def readOption {α : Type} (read : Json → Option α) : Json → Option (Option α)
  | .null => some none
  | v => (read v).map some

/-- The name of a constant, by itself or as the only key of an object with the value null. -/
def readName : Json → Option String
  | .text s => s
  | .object [(some s, .null)] => some s
  | _ => none

/-- Seconds and nanoseconds; a second or more of the latter is carried over. -/
def durationOf (secs nanos : Json) : Option Duration := do
  let s ← readNat UInt64.size secs
  let n ← readNat UInt32.size nanos
  if h : s * 1_000_000_000 + n < UInt64.size * 1_000_000_000 then some ⟨s * 1_000_000_000 + n, h⟩ else none

/-- A duration: both its parts, and nothing else. -/
def readDuration : Json → Option Duration
  | .array [s, n] => durationOf s n
  | .object [(some a, x), (some b, y)] =>
    if a = "secs" ∧ b = "nanos" then durationOf x y
    else if a = "nanos" ∧ b = "secs" then durationOf y x
    else none
  | _ => none

/-- A duration as its two parts. -/
def writeDuration (d : Duration) : Json :=
  .ofMembers [("secs", .ofNat d.secs), ("nanos", .ofNat d.subsecNanos)]

/-- A kind of backoff. -/
def readBackoff (j : Json) : Option Backoff := (readName j).bind Backoff.ofName?

/-- A log level. -/
def readLevel (j : Json) : Option Level := (readName j).bind Level.ofName?

/-! ## Options -/

/-- The fields of retry options. -/
def retryFields : List (Field RetryOptions) := [
  ("policy", fun j o => (readBackoff j).map fun v => { o with backoff := v }),
  ("max_tries", fun j o => (readNat UInt32.size j).map fun v => { o with maxTries := .ofNat v }),
  ("try_timeout", fun j o => (readDuration j).map fun v => { o with tryTimeout := v }),
  ("retry_delay", fun j o => (readDuration j).map fun v => { o with retryDelay := v }),
  ("max_retry_delay", fun j o => (readDuration j).map fun v => { o with maxRetryDelay := v })]

/-- Reads retry options. -/
def readRetry : Json → Option RetryOptions := readRecord retryFields .unset

/-- Writes retry options. -/
def writeRetry (o : RetryOptions) : Json :=
  .ofMembers [
    ("policy", .ofString o.backoff.name), ("max_tries", .ofNat o.maxTries.toNat),
    ("try_timeout", writeDuration o.tryTimeout), ("retry_delay", writeDuration o.retryDelay),
    ("max_retry_delay", writeDuration o.maxRetryDelay)]

/-- The fields of request log options. -/
def requestLogFields : List (Field RequestLogOptions) := [
  ("log_warning_if_try_over_threshold", fun j _ => (readOption readDuration j).map (⟨·⟩))]

/-- Reads request log options. -/
def readRequestLog : Json → Option RequestLogOptions := readRecord requestLogFields .default

/-- Writes request log options. -/
def writeRequestLog (o : RequestLogOptions) : Json :=
  .ofMembers [
    ("log_warning_if_try_over_threshold", .ofOption (o.slowThreshold.map writeDuration))]

/-- The fields of telemetry options. -/
def telemetryFields : List (Field String) := [("value", fun j _ => readText j)]

/-- Reads what the application calls itself. -/
def readTelemetry : Json → Option String := readRecord telemetryFields ""

/-- Writes what the application calls itself. -/
def writeTelemetry (value : String) : Json := .ofMembers [("value", .ofString value)]

/-- The fields of transport options. -/
def transportFields : List (Field TransportOptions) := [
  ("pool_max_idle_per_host",
    fun j o => (readNat UInt64.size j).map fun v => { o with maxIdlePerHost := .ofNat v }),
  ("pool_idle_timeout", fun j o => (readDuration j).map fun v => { o with idleTimeout := v }),
  ("connect_timeout", fun j o => (readDuration j).map fun v => { o with connectTimeout := v }),
  ("tcp_keepalive", fun j o => (readDuration j).map fun v => { o with keepalive := v }),
  ("tls_handshake_timeout",
    fun j o => (readDuration j).map fun v => { o with handshakeTimeout := v }),
  ("proxy_url", fun j o => (readOption readText j).map fun v => { o with proxyUrl := v })]

/-- Reads transport options. -/
def readTransport : Json → Option TransportOptions := readRecord transportFields .default

/-- Writes transport options. -/
def writeTransport (o : TransportOptions) : Json :=
  .ofMembers [
    ("pool_max_idle_per_host", .ofNat o.maxIdlePerHost.toNat),
    ("pool_idle_timeout", writeDuration o.idleTimeout),
    ("connect_timeout", writeDuration o.connectTimeout),
    ("tcp_keepalive", writeDuration o.keepalive),
    ("tls_handshake_timeout", writeDuration o.handshakeTimeout),
    ("proxy_url", .ofOption (o.proxyUrl.map .ofString))]

/-- The fields of pipeline options; the log and the sender are never part of a document. -/
def pipelineFields : List (Field PipelineOptions) := [
  ("retry", fun j o => (readRetry j).map fun v => { o with retry := v }),
  ("request_log", fun j o => (readRequestLog j).map fun v => { o with requestLog := v }),
  ("telemetry", fun j o => (readTelemetry j).map fun v => { o with telemetry := v }),
  ("transport", fun j o => (readTransport j).map fun v => { o with transport := v })]

/-- Reads pipeline options. -/
def readPipeline : Json → Option PipelineOptions := readRecord pipelineFields .default

/-- Writes pipeline options. -/
def writePipeline (o : PipelineOptions) : Json :=
  .ofMembers [
    ("retry", writeRetry o.retry), ("request_log", writeRequestLog o.requestLog),
    ("telemetry", writeTelemetry o.telemetry), ("transport", writeTransport o.transport)]

end QueueClient.Settings
