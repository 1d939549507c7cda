/-
# Requests and responses

What a client sends and what it gets back.  A response remembers of its request only what
helps to find it again.
-/
import QueueClient.Body
import QueueClient.Headers
import QueueClient.Status
import QueueClient.Url.Basic

namespace QueueClient

/-- The header with which a client names its request. -/
def clientRequestIdHeader : String := "x-ms-client-request-id"

/-- The header with which the service names a request. -/
def serviceRequestIdHeader : String := "x-ms-request-id"

/-- A method name, if the text can be one. -/
def method? (s : String) : Option String :=
  if s.toList.isEmpty || !s.toList.all Headers.isTokenChar then none else some s

/-- A request. -/
structure Request where
  /-- The method name. -/
  method : String
  /-- Where it goes. -/
  url : Url
  /-- The header fields. -/
  headers : Headers
  /-- The payload. -/
  body : Body
  /-- Whether the client's name for the request was made up by the library. -/
  generatedId : Bool
deriving DecidableEq, Inhabited

/-- What a response keeps of its request. -/
structure RequestSummary where
  /-- The method name. -/
  method : String
  /-- Where it went. -/
  url : Url
  /-- The client's name for it. -/
  clientRequestId : Option String
deriving DecidableEq, Inhabited

/-- A response. -/
structure Response where
  /-- The status. -/
  status : Status
  /-- The header fields. -/
  headers : Headers
  /-- The whole body. -/
  body : List UInt8
  /-- The request that it answers. -/
  request : RequestSummary
deriving DecidableEq

namespace Request

/-- A request without headers and body. -/
def new (method : String) (url : Url) : Request := ⟨method, url, .empty, .empty, false⟩

/-- The request with a header field set, in place of all values of that name. -/
def setHeader (r : Request) (name value : String) : Except HeaderFault Request :=
  (r.headers.set name value).map fun h => { r with headers := h }

/-- The client's name for the request. -/
def clientRequestId? (r : Request) : Option String := r.headers.text? clientRequestIdHeader

/-- What a response will keep of the request. -/
def summary (r : Request) : RequestSummary := ⟨r.method, r.url, r.clientRequestId?⟩

end Request

namespace Response

/-- An empty response to a request. -/
def new (status : Status) (r : Request) : Response := ⟨status, .empty, [], r.summary⟩

/-- The response with a header field set, in place of all values of that name. -/
def setHeader (r : Response) (name value : String) : Except HeaderFault Response :=
  (r.headers.set name value).map fun h => { r with headers := h }

/-- The service's name for the request. -/
def serviceRequestId? (r : Response) : Option String := r.headers.text? serviceRequestIdHeader

instance : Inhabited Response := ⟨⟨.ok, .empty, [], default⟩⟩

end Response

end QueueClient
