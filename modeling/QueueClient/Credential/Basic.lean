/-
# Credentials

A credential signs requests just before they leave.  The anonymous one signs nothing and needs
no stage.  A shared key belongs to an account; the key can be replaced between signatures.
-/
import QueueClient.Credential.Signature
import QueueClient.Stage.Basic
import QueueClient.Text.Quoted

namespace QueueClient

/-- A way to sign requests. -/
structure Credential where
  /-- Whether a chain can do without a stage for it. -/
  isAnonymous : Bool
  /-- The signed request. -/
  sign : Request → Activity (Except Error Request)

/-- The key that a text in Base64 holds; there has to be one. -/
def accountKey? (text : String) : Except Error (List UInt8) :=
  match Base64.decode (Utf8.encode (Text.trim text)) with
  | .error f => .error (.credential ("account key is not valid base64: " ++ f.message))
  | .ok key =>
    if key.isEmpty then .error (.credential "account key must not be empty") else .ok key

/-- The key for an account with a name that is not blank. -/
def sharedKey? (account key : String) : Except Error (List UInt8) :=
  if (Text.trim account).isEmpty then .error (.credential "account name must not be empty")
  else accountKey? key

namespace Credential

/-- Leaves requests as they are. -/
def anonymous : Credential := ⟨true, fun r => .done (.ok r)⟩

/-- Signs with the current key of an account.  The run is taken to have started at a Unix time. -/
def sharedKey (account : String) (epoch : Int) : Credential :=
  { isAnonymous := false
    sign := fun r => .act .now fun now => .act .accountKey fun key =>
      .done (Signature.signAt account key (epoch + (now / 1_000_000_000 : Nat)) r) }

/-- Replaces the key of the account by the one that a text holds; without one the key stays. -/
def replaceKey (text : String) : Activity (Except Error Unit) :=
  match accountKey? text with
  | .ok key => .act (.storeKey key) fun _ => .done (.ok ())
  | .error e => .done (.error e)

/-- Refuses to sign. -/
def refusing (message : String) : Credential :=
  ⟨false, fun _ => .done (.error (.credential message))⟩

/-- How a shared key shows: without its key. -/
def describeSharedKey (account : String) : String :=
  "SharedKeyCredential \x7b account_name: " ++ Text.quoted account ++
    ", key: \"<redacted>\" \x7d"

/-- How the anonymous credential shows. -/
def describeAnonymous : String := "AnonymousCredential"

/-- Signs each request and passes it on. -/
def stage (c : Credential) (next : Stage) : Stage := fun ctx r =>
  (c.sign r).bind fun
    | .ok r => next ctx r
    | .error e => .done (.error e)

/-- The policy for a credential. -/
def policy (c : Credential) : Policy := ⟨"credential", fun next _ => c.stage next⟩

end Credential

end QueueClient
