/-
# Retry options

How often and how patiently a request is tried.  Options that are zero are to be replaced by
defaults; the result of that is a normal form.
-/
import QueueClient.Binary64
import QueueClient.Error
import QueueClient.Text.Blank

namespace QueueClient

/-- How the waits between tries grow. -/
inductive Backoff where
  /-- Twice as long each time, with some jitter. -/
  | exponential
  /-- Always the same. -/
  | fixed
deriving DecidableEq, Inhabited

namespace Backoff

/-- The name in small letters. -/
def name : Backoff → String
  | exponential => "exponential"
  | fixed => "fixed"

/-- The name with a capital. -/
def title : Backoff → String
  | exponential => "Exponential"
  | fixed => "Fixed"

/-- The kind with exactly this name. -/
def ofName? (s : String) : Option Backoff := [exponential, fixed].find? (·.name == s)

/-- The kind that a text names, blanks around it and letter case aside. -/
def parse (s : String) : Except Error Backoff :=
  let name := Text.asciiLowercase (Text.trim s)
  match ofName? name with
  | some b => .ok b
  | none =>
    .error (.validation
      ("unknown retry policy '" ++ name ++ "', expected 'exponential' or 'fixed'") default)

end Backoff

/-- How a request is tried again; zero stands for "the default". -/
structure RetryOptions where
  /-- How the waits grow. -/
  backoff : Backoff
  /-- How many tries there are at most. -/
  maxTries : UInt32
  /-- How long one try may take. -/
  tryTimeout : Duration
  /-- The first wait. -/
  retryDelay : Duration
  /-- The longest wait. -/
  maxRetryDelay : Duration
deriving DecidableEq

namespace RetryOptions

/-- Everything left to the defaults. -/
def unset : RetryOptions := ⟨.exponential, 0, .zero, .zero, .zero⟩

instance : Inhabited RetryOptions := ⟨unset⟩

/-- The number of tries by default. -/
def defaultMaxTries : UInt32 := 4

/-- The duration of a try by default. -/
def defaultTryTimeout : Duration := .ofSecs 60

/-- The longest wait by default. -/
def defaultMaxRetryDelay : Duration := .ofSecs 120

/-- The first wait by default. -/
def defaultRetryDelay : Backoff → Duration
  | .exponential => .ofSecs 4
  | .fixed => .ofSecs 30

/-- A duration, or the default for none. -/
def orDefault (d default : Duration) : Duration := if d.isZero then default else d

/-- The options with every zero replaced and the first wait brought down to the longest. -/
def withDefaults (o : RetryOptions) : RetryOptions :=
  let maxRetryDelay := orDefault o.maxRetryDelay defaultMaxRetryDelay
  { backoff := o.backoff
    maxTries := if o.maxTries = 0 then defaultMaxTries else o.maxTries
    tryTimeout := orDefault o.tryTimeout defaultTryTimeout
    retryDelay := min (orDefault o.retryDelay (defaultRetryDelay o.backoff)) maxRetryDelay
    maxRetryDelay }

/-! ## The waits between tries -/

/-- The smallest factor of jitter. -/
def jitterMin : Binary64 := .ofDecimal false 8 (-1)

/-- The width of the band of jitter. -/
def jitterSpan : Binary64 := .ofDecimal false 5 (-1)

/-- The factor of jitter for a draw from 0 to 1. -/
def jitter (draw : Binary64) : Binary64 := jitterMin + draw * jitterSpan

/-- The wait before a retry in seconds, not cut off: the first wait, doubled for each retry after the
first (the wait after the first try is number 1), times a factor of jitter. -/
def scaled (o : RetryOptions) (retry : Nat) (factor : Binary64) : Binary64 :=
  Binary64.ofDuration o.retryDelay * Binary64.twoPow (min (retry - 1) 62) * factor

/-- The wait before a retry under a factor of jitter, never more than the longest wait.  The
computation is in double precision, and its result is converted back in a way that can fail. -/
def delay? (o : RetryOptions) (retry : Nat) (factor : Binary64) : Option Duration :=
  match o.backoff with
  | .fixed => some (min o.retryDelay o.maxRetryDelay)
  | .exponential => Binary64.capped? o.maxRetryDelay (o.scaled retry factor)

end RetryOptions

end QueueClient
