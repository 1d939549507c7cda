/-
# The request log

One entry before a request goes out and one when its outcome is known.  Failures are logged as
errors, slow successes as warnings, everything else for information.  The signature in a URL
never shows: its value is masked wherever the URL is written.
-/
import QueueClient.Stage.Basic
import QueueClient.Url.Query

namespace QueueClient

/-- Options of the request log. -/
structure RequestLogOptions where
  /-- Requests that take longer are logged as warnings; without a threshold none are. -/
  slowThreshold : Option Duration
deriving DecidableEq

/-- Three seconds are slow. -/
def RequestLogOptions.default : RequestLogOptions := ⟨some (.ofSecs 3)⟩

instance : Inhabited RequestLogOptions := ⟨.default⟩

namespace RequestLog

/-- What stands in place of a signature. -/
def mask : List Char := "REDACTED".toList

/-- The name of the parameter that holds a signature, in small letters. -/
def signatureName : List Char := "sig".toList

/-- A piece of a query whose value, if it is a signature, is masked. -/
def maskPiece (piece : List Char) : List Char :=
  match Query.split piece with
  | (name, some _) =>
    if name.map Char.toLower = signatureName then name ++ '=' :: mask else piece
  | (_, none) => piece

/-- Whether a piece of a query holds a signature. -/
def holdsSignature (piece : List Char) : Bool :=
  match Query.split piece with
  | (name, some _) => name.map Char.toLower == signatureName
  | (_, none) => false

/-- The URL with all signatures masked; one without signatures is not touched. -/
def redact (u : Url) : Url :=
  match u.query with
  | none => u
  | some q =>
    let pieces := Query.pieces q.toList
    if pieces.any holdsSignature then u.setQuery (Query.join (pieces.map maskPiece)) else u

/-- The level for an outcome. -/
def outcomeLevel (threshold : Option Duration) (outcome : Outcome) (elapsed : Duration) : Level :=
  match outcome with
  | .error _ => .error
  | .ok r =>
    if r.status.isFailure then .error
    else if threshold.any (· < elapsed) then .warning
    else .info

/-- What is logged of a request: method, masked URL, the client's id and the number of the try. -/
structure Subject where
  /-- The method name. -/
  method : String
  /-- The masked URL. -/
  url : String
  /-- The client's id, or a dash. -/
  id : String
  /-- The number of the try, from 1. -/
  try_ : Nat
deriving DecidableEq

/-- What is logged of a request with its context. -/
def Subject.of (ctx : Context) (r : Request) : Subject :=
  ⟨r.method, (redact r.url).text, r.clientRequestId?.getD "-", max ctx.attempt 1⟩

/-- The entry before a request goes out. -/
def outgoingText (s : Subject) : String :=
  "==> OUTGOING REQUEST (try=" ++ toString s.try_ ++ ") " ++ s.method ++ " " ++ s.url ++
    " client-request-id=" ++ s.id

/-- The remark on a request that took longer than the threshold. -/
def slowRemark (threshold : Option Duration) (elapsed : Duration) : String :=
  match threshold with
  | some t => if t < elapsed then " [SLOW >" ++ t.compact ++ "]" else ""
  | none => ""

/-- The entry about an outcome. -/
def closingText (s : Subject) (threshold : Option Duration) (outcome : Outcome)
    (elapsed : Duration) : String :=
  let measured := "(try=" ++ toString s.try_ ++ ", duration=" ++ elapsed.compact ++
    slowRemark threshold elapsed ++ ")"
  match outcome with
  | .ok r =>
    "<== " ++ toString r.status.code ++ " " ++ s.method ++ " " ++ s.url ++ " " ++ measured ++
      " request-id=" ++ r.serviceRequestId?.getD "-" ++ " client-request-id=" ++ s.id
  | .error e =>
    "<== REQUEST ERROR " ++ s.method ++ " " ++ s.url ++ " " ++ measured ++
      " client-request-id=" ++ s.id ++ ": " ++ e.text

/-- Logs a request and its outcome.  A threshold of no time counts as none. -/
def stage (o : RequestLogOptions) (next : Stage) (log : Logger) : Stage := fun ctx r =>
  let subject := Subject.of ctx r
  let threshold := o.slowThreshold.filter (! ·.isZero)
  (log.log .info (outgoingText subject)).bind fun _ =>
    .act .now fun began =>
      (next ctx r).bind fun outcome =>
        .act .now fun ended =>
          let elapsed := Instant.since ended began
          (log.log (outcomeLevel threshold outcome elapsed)
            (closingText subject threshold outcome elapsed)).bind fun _ => .done outcome

/-- The policy for options. -/
def policy (o : RequestLogOptions) : Policy := ⟨"request_log", fun next log => stage o next log⟩

end RequestLog

end QueueClient
