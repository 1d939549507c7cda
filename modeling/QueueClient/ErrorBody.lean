/-
# Error bodies

The body of a failed response holds an `Error` element with a `Code` and a `Message`.  The
text inside either is collected, wherever it stands inside; a body that breaks off yields what
was read before the fault.  The code in the header of the response goes before the one in the
body, and without a message the reason phrase of the status stands in.
-/
import QueueClient.Error
import QueueClient.Markup.Event

namespace QueueClient

/-- The header with the service's own error code. -/
def errorCodeHeader : String := "x-ms-error-code"

namespace ErrorBody

open Markup (Event)

/-- The two elements that are read. -/
inductive Field where
  | code
  | message
deriving DecidableEq

/-- What was read of an error body so far. -/
structure Reading where
  /-- Whether the reader is behind the start of an `Error` element and before its end. -/
  inError : Bool
  /-- The element whose text is being collected. -/
  current : Option Field
  /-- The text of `Code`. -/
  code : Option (List Char)
  /-- The text of `Message`. -/
  message : Option (List Char)
deriving DecidableEq

namespace Reading

/-- Nothing read. -/
def start : Reading := ⟨false, none, none, none⟩

/-- More text for the element that is being collected. -/
def collect (r : Reading) (text : List Char) : Reading :=
  match r.current with
  | some .code => { r with code := some (r.code.getD [] ++ text) }
  | some .message => { r with message := some (r.message.getD [] ++ text) }
  | none => r

/-- What is read after one more event.  Text with a faulty entity counts as absent. -/
def step (r : Reading) : Event → Reading
  | .start name =>
    let name := String.ofList (Markup.localName name)
    if name = "Error" then { r with inError := true }
    else if name = "Code" ∧ r.inError = true then { r with current := some .code }
    else if name = "Message" ∧ r.inError = true then { r with current := some .message }
    else r
  | .finish name =>
    let name := String.ofList (Markup.localName name)
    if name = "Error" then { r with inError := false }
    else if name = "Code" ∨ name = "Message" then { r with current := none }
    else r
  | .text raw =>
    match Markup.unescape? raw with
    | some text => r.collect text
    | none => r
  | .literal content => r.collect content
  | .other => r

end Reading

/-- The code and the message in the text of a body. -/
def read (text : List Char) : Option (List Char) × Option (List Char) :=
  let r := (Markup.events text).foldl Reading.step .start
  (r.code, r.message)

end ErrorBody

/-- What a failed response says. -/
def ServiceError.ofResponse (r : Response) : ServiceError :=
  let (code, message) := ErrorBody.read (Utf8.decodeLossy r.body).toList
  { code := r.headers.text? errorCodeHeader <|> code.map String.ofList
    message := (message.map String.ofList).getD (r.status.reason?.getD "unknown status")
    response := r }

/-- The response, or the error that it is if its status reports one. -/
def Response.check (r : Response) : Except Error Response :=
  if r.status.isClientError || r.status.isServerError then .error (.service (.ofResponse r))
  else .ok r

end QueueClient
