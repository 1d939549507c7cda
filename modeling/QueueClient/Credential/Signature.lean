/-
# Shared key signatures

A request is signed over a text that lists, line by line, its method, its standard headers,
its service headers in order of name, and the resource with its query parameters in order of
name.  The signature is the keyed hash of that text.  Signing first stamps the request with
the date, so the date is signed too.
-/
import QueueClient.Calendar
import QueueClient.Digest.Hmac
import QueueClient.Encoding.Base64
import QueueClient.Error
import QueueClient.Text.Blank
import QueueClient.Url.Query

namespace QueueClient.Signature

/-- The header with the time of signing. -/
def dateHeader : String := "x-ms-date"

/-- The header with the signature. -/
def authorizationHeader : String := "authorization"

/-- What the names of service headers start with. -/
def servicePrefix : String := "x-ms-"

/-- The standard headers that are signed behind the content length. -/
def laterHeaders : List String :=
  ["if-modified-since", "if-match", "if-none-match", "if-unmodified-since", "range"]

/-- The first value of a header as text; empty if there is none that can be read. -/
def headerText (h : Headers) (name : String) : String := (h.text? name).getD ""

/-- The length that is signed: what the header says, or the length of the body; zero is left
out. -/
def contentLength (r : Request) : String :=
  let s := match r.headers.text? "content-length" with
    | some v => v
    | none => match r.body.length? with
      | some n => toString n
      | none => ""
  if s = "0" then "" else s

/-- The names of the service headers, each once, in order. -/
def serviceNames (h : Headers) : List String :=
  (h.names.filter fun n => servicePrefix.toList.isPrefixOf n.toList).mergeSort fun a b => a ≤ b

/-- The line for a service header: its values, trimmed, between commas. -/
def serviceLine (h : Headers) (name : String) : String :=
  name ++ ":" ++
    ",".intercalate ((h.values name).map fun v => Text.trim ((Headers.valueText? v).getD ""))

/-- The lines for all service headers, as one text. -/
def serviceHeaders (h : Headers) : String :=
  "\n".intercalate ((serviceNames h).map (serviceLine h))

/-- The parameters of a query with their names in lower case. -/
def parameters (u : Url) : List (String × String) :=
  (Query.pairs (u.query.getD "").toList).map fun p => (Text.toLowercase p.1, p.2)

/-- The line for a parameter: its values in order, between commas. -/
def parameterLine (params : List (String × String)) (name : String) : String :=
  let values := (params.filter (·.1 == name)).map (·.2)
  name ++ ":" ++ ",".intercalate (values.mergeSort fun a b => a ≤ b)

/-- The resource: account and path, then a line for each parameter in order of name. -/
def resource (account : String) (u : Url) : String :=
  let params := parameters u
  let names := (params.map (·.1)).eraseDups.mergeSort fun a b => a ≤ b
  "\n".intercalate
    (("/" ++ account ++ (if u.path.isEmpty then "/" else u.path)) ::
      names.map (parameterLine params))

/-- The text that is signed.  The line for the date stays empty: the stamp stands among the
service headers. -/
def stringToSign (account : String) (r : Request) : String :=
  let h := headerText r.headers
  "\n".intercalate
    ([r.method, h "content-encoding", h "content-language", contentLength r, h "content-md5",
        h "content-type", ""] ++ laterHeaders.map h ++
      [serviceHeaders r.headers, resource account r.url])

/-- The signature of a request. -/
def signature (account : String) (key : List UInt8) (r : Request) : String :=
  String.ofList (Base64.encode (Hmac.code key (Utf8.encode (stringToSign account r))))

/-- The request with the date of a Unix time. -/
def stamp (time : Int) (r : Request) : Request :=
  { r with headers := r.headers.insert dateHeader (Utf8.encode (Calendar.headerDate time)) }

/-- The request with its signature. -/
def authorize (account : String) (key : List UInt8) (r : Request) : Except Error Request :=
  match Headers.value? ("SharedKey " ++ account ++ ":" ++ signature account key r) with
  | some v => .ok { r with headers := r.headers.insert authorizationHeader v }
  | none =>
    .error (.credential ("invalid authorization header: " ++ HeaderFault.valueReason))

/-- The request signed at a Unix time. -/
def signAt (account : String) (key : List UInt8) (time : Int) (r : Request) :
    Except Error Request :=
  authorize account key (stamp time r)

end QueueClient.Signature
