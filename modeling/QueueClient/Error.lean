/-
# Errors

What can go wrong with an operation, by cause, and how each cause is worded.
-/
import QueueClient.Context.Basic
import QueueClient.Message

namespace QueueClient

/-- Conditions under which a message does not get through the network. -/
inductive NetworkFault where
  /-- Connecting, reading or a whole try took too long. -/
  | timeout
  | connectionRefused
  | connectionReset
  | connectionAborted
  /-- The name of the host could not be resolved. -/
  | dns
  /-- No connection, for another reason. -/
  | connect
  /-- The secure channel could not be set up. -/
  | tls
  /-- The peer closed the connection within a message. -/
  | unexpectedEof
  /-- There is no way to send such a request. -/
  | invalidRequest
  /-- The sender was shut down. -/
  | shutdown
  | other
deriving DecidableEq, Inhabited

namespace NetworkFault

/-- All conditions. -/
def all : List NetworkFault :=
  [timeout, connectionRefused, connectionReset, connectionAborted, dns, connect, tls,
    unexpectedEof, invalidRequest, shutdown, other]

/-- The name of a condition. -/
def name : NetworkFault → String
  | timeout => "Timeout"
  | connectionRefused => "ConnectionRefused"
  | connectionReset => "ConnectionReset"
  | connectionAborted => "ConnectionAborted"
  | dns => "Dns"
  | connect => "Connect"
  | tls => "Tls"
  | unexpectedEof => "UnexpectedEof"
  | invalidRequest => "InvalidRequest"
  | shutdown => "Shutdown"
  | other => "Other"

/-- The wording of a condition. -/
def text : NetworkFault → String
  | timeout => "timeout"
  | connectionRefused => "connection refused"
  | connectionReset => "connection reset"
  | connectionAborted => "connection aborted"
  | dns => "dns resolution failed"
  | connect => "connect failed"
  | tls => "tls failure"
  | unexpectedEof => "unexpected eof"
  | invalidRequest => "invalid request"
  | shutdown => "sender shut down"
  | other => "other"

/-- Whether the condition may pass by itself. -/
def isTransient : NetworkFault → Bool
  | timeout | connectionRefused | connectionReset | connectionAborted | dns | connect
  | unexpectedEof => true
  | tls | invalidRequest | shutdown | other => false

/-- The condition behind a failed input or output operation, given by the name of its kind. -/
def ofIoKind (kind : String) : NetworkFault :=
  match kind with
  | "ConnectionRefused" => connectionRefused
  | "ConnectionReset" => connectionReset
  | "BrokenPipe" => connectionReset
  | "ConnectionAborted" => connectionAborted
  | "TimedOut" => timeout
  | "UnexpectedEof" => unexpectedEof
  | _ => other

end NetworkFault

/-- A failure of the network, with its condition. -/
structure TransportError where
  /-- The condition. -/
  fault : NetworkFault
  /-- What was attempted. -/
  message : String
  /-- The text of the failure underneath, if there is one. -/
  cause : Option String
deriving DecidableEq, Inhabited

namespace TransportError

/-- A failure with nothing underneath. -/
def new (fault : NetworkFault) (message : String) : TransportError := ⟨fault, message, none⟩

/-- A failed input or output operation. -/
def ofIo (kind message : String) : TransportError :=
  ⟨.ofIoKind kind, "I/O failure", some message⟩

/-- The wording of a failure. -/
def text (e : TransportError) : String := e.fault.text ++ ": " ++ e.message

end TransportError

/-- Where an error arose. -/
structure ErrorContext where
  /-- The field or option at fault. -/
  field : Option String
  /-- More about it, such as the value. -/
  details : Option String
  /-- The part of the library that found it. -/
  source : Option String
deriving DecidableEq, Inhabited

/-- What is known about the place of an error, in parentheses; nothing if nothing is known. -/
def ErrorContext.text (c : ErrorContext) : String :=
  let parts :=
    (c.field.map ("field: " ++ ·)).toList ++ (c.details.map ("details: " ++ ·)).toList ++
      (c.source.map ("source: " ++ ·)).toList
  if parts.isEmpty then "" else " (" ++ ", ".intercalate parts ++ ")"

/-- A response whose status reports a failure. -/
structure ServiceError where
  /-- The code of the service, if it gave one. -/
  code : Option String
  /-- The explanation of the service, or the reason phrase. -/
  message : String
  /-- The response. -/
  response : Response
deriving DecidableEq, Inhabited

/-- The wording of a failed response. -/
def ServiceError.text (e : ServiceError) : String :=
  "HTTP " ++ toString e.response.status.code ++ " (" ++ e.code.getD "no service code" ++ "): " ++
    e.message ++
    (match e.response.serviceRequestId? with
      | some id => " [request id " ++ id ++ "]"
      | none => "")

/-- Everything that can go wrong. -/
inductive Error where
  /-- The library was set up wrongly. -/
  | configuration (message : String) (context : ErrorContext)
  /-- A value given by the caller cannot be used. -/
  | validation (message : String) (context : ErrorContext)
  /-- The network failed. -/
  | transport (error : TransportError)
  /-- The service refused. -/
  | service (error : ServiceError)
  /-- The caller's context ended the operation. -/
  | cancelled (reason : CancelReason)
  /-- The body of the request is gone and cannot be sent with this try. -/
  | bodyNotReplayable (attempt : Nat)
  /-- The request could not be signed. -/
  | credential (message : String)
deriving DecidableEq, Inhabited

namespace Error

/-- The wording of an error. -/
def text : Error → String
  | configuration message context => "Configuration error: " ++ message ++ context.text
  | validation message context => "Validation error: " ++ message ++ context.text
  | transport e => "Network transport error: " ++ e.text
  | service e => "Service error: " ++ e.text
  | cancelled reason => "Operation cancelled: " ++ reason.text
  | bodyNotReplayable attempt =>
    "Request body cannot be rewound for attempt " ++ toString attempt
  | credential message => "Credential error: " ++ message

/-- Where the error arose, for the kinds that say so. -/
def context? : Error → Option ErrorContext
  | configuration _ c => some c
  | validation _ c => some c
  | _ => none

/-- Whether the caller's context ended the operation. -/
def isCancellation : Error → Bool
  | cancelled _ => true
  | _ => false

/-- The failed response behind an error. -/
def service? : Error → Option ServiceError
  | service e => some e
  | _ => none

/-- Whether another try could succeed where this error arose. -/
def isTransient : Error → Bool
  | transport e => e.fault.isTransient
  | service e => e.response.status.isTransient
  | _ => false

/-- A header field that cannot be set. -/
def ofHeaderFault (f : HeaderFault) : Error := validation f.text default

end Error

end QueueClient
