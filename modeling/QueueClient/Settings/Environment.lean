/-
# Options from the environment

Some options can be given by variables.  A variable that is not set, not well formed or not a
number in range is passed over.
-/
import QueueClient.Pipeline.Options

namespace QueueClient.Settings

/-- The variables of an environment, by names without the common beginning. -/
abbrev Environment := String → Option (List UInt8)

/-- The text of a variable. -/
def Environment.text? (env : Environment) (name : String) : Option String :=
  (env name).bind Utf8.decode?

/-- A number below a bound, in decimal digits, with a plus sign in front or not. -/
def parseNat? (bound : Nat) (s : String) : Option Nat :=
  let cs := s.toList
  let digits := if cs.head? = some '+' then cs.tail else cs
  if digits.isEmpty || !digits.all Char.isDigit then none
  else
    let n := Text.decimal digits
    if n < bound then some n else none

/-- The number in a variable, blanks around it aside. -/
def Environment.nat? (env : Environment) (bound : Nat) (name : String) : Option Nat :=
  (env.text? name).bind fun s => parseNat? bound (Text.trim s)

/-- Retry options from the environment. -/
def retryOf (env : Environment) : RetryOptions :=
  let u := RetryOptions.unset
  { backoff := ((env.text? "RETRY_POLICY").bind fun s => (Backoff.parse s).toOption).getD u.backoff
    maxTries := ((env.nat? UInt32.size "MAX_TRIES").map .ofNat).getD u.maxTries
    tryTimeout := ((env.nat? UInt64.size "TRY_TIMEOUT_SECS").map .ofSecs).getD u.tryTimeout
    retryDelay := ((env.nat? UInt64.size "RETRY_DELAY_MS").map .ofMillis).getD u.retryDelay
    maxRetryDelay :=
      ((env.nat? UInt64.size "MAX_RETRY_DELAY_MS").map .ofMillis).getD u.maxRetryDelay }

/-- Transport options from the environment. -/
def transportOf (env : Environment) : TransportOptions :=
  let u := TransportOptions.default
  { u with
    maxIdlePerHost :=
      ((env.nat? UInt64.size "HTTP_POOL_MAX_IDLE_PER_HOST").map .ofNat).getD u.maxIdlePerHost
    idleTimeout :=
      ((env.nat? UInt64.size "HTTP_POOL_IDLE_TIMEOUT_SECS").map .ofSecs).getD u.idleTimeout
    connectTimeout :=
      ((env.nat? UInt64.size "HTTP_CONNECT_TIMEOUT_SECS").map .ofSecs).getD u.connectTimeout
    proxyUrl := (env.text? "PROXY_URL").filter fun s => !(Text.trim s).isEmpty }

end QueueClient.Settings
