/-
# Trying again

A request is tried up to the allowed number of times.  Each try gets a copy of the request with
a timeout for the service, and a context of its own that ends with the time for one try or
with the caller's deadline.  A failure that may pass by itself is followed by a wait and another
try.  The caller's context goes before everything: once it is done, nothing else is returned.

The end of a try is the sum of an instant and a duration, and nothing is done for the case that
the clock cannot name it: the request breaks off there.
-/
import QueueClient.Retry.Options
import QueueClient.Retry.ServerTimeout
import QueueClient.Stage.Basic

namespace QueueClient.Retry

/-- The error of a try that took too long. -/
def timedOut (o : RetryOptions) (attempt : Nat) : Error :=
  .transport (.new .timeout
    ("try " ++ toString attempt ++ " exceeded its " ++ o.tryTimeout.compact ++ " timeout"))

/-- Why a request should be tried again, if it should. -/
def cause? : Outcome → Option String
  | .ok r => if r.status.isTransient then some ("status " ++ toString r.status.code) else none
  | .error e => if e.isTransient then some e.text else none

/-- The request for a try: later tries replace a made-up id. -/
def renew (attempt : Nat) (r : Request) : Activity Request :=
  if 1 < attempt ∧ r.generatedId = true then
    .act .newId fun id =>
      .done { r with headers := r.headers.insert clientRequestIdHeader (Utf8.encode id) }
  else .done r

/-- What a try comes to, once the stages below have answered or the time for the try is over
(`none`).  An error gives way to the end of the caller's context; a cancellation from below that
the caller did not ask for counts as a try that took too long. -/
def settle (o : RetryOptions) (ctx : Context) (attempt : Nat) (answer : Option Outcome) :
    Activity Outcome :=
  match answer.getD (.error (timedOut o attempt)) with
  | .ok r => .done (.ok r)
  | .error e =>
    .act (.reason ctx) fun
      | some reason => .done (.error (.cancelled reason))
      | none => .done (.error (if e.isCancellation then timedOut o attempt else e))

/-- One try. -/
def attempt (o : RetryOptions) (next : Stage) (ctx : Context) (n : Nat) (r : Request) :
    Activity Outcome :=
  .act (.rewind r n) fun
    | .error e => .done (.error e)
    | .ok r =>
      (renew n r).bind fun r =>
        .act .now fun now =>
          (Activity.expect (Instant.after? now o.tryTimeout)).bind fun limit =>
            let deadline := earliest ctx.deadline limit
            let r := { r with url := r.url.setServerTimeout (Instant.since deadline now) }
            .act (.branch ctx.token) fun token =>
              ((next (ctx.deriveFor token n deadline) r).timeoutAt deadline
                |>.untilDone ctx).bind fun
                  | .error reason => .done (.error (.cancelled reason))
                  | .ok answer => settle o ctx n answer

/-- The entry about the last try. -/
def gaveUpText (n : Nat) (cause : String) : String :=
  "retry: giving up after " ++ toString n ++ " tries; last failure: " ++ cause

/-- The entry about a try that is not the last. -/
def retryingText (n maxTries : Nat) (cause : String) (delay : Duration) : String :=
  "retry: try " ++ toString n ++ " of " ++ toString maxTries ++ " failed (" ++ cause ++
    "); retrying in " ++ delay.compact

/-- Try number `n` and what follows from it, with `left` more tries allowed. -/
def tries (o : RetryOptions) (log : Logger) (next : Stage) (ctx : Context) (r : Request) :
    (left n : Nat) → Activity Outcome
  | left, n =>
    .act (.reason ctx) fun
      | some reason => .done (.error (.cancelled reason))
      | none =>
        (attempt o next ctx n r).bind fun outcome =>
          match cause? outcome with
          | none => .done outcome
          | some cause =>
            match left with
            | 0 => (log.log .info (gaveUpText n cause)).bind fun _ => .done outcome
            | left + 1 =>
              .act .draw fun draw =>
                (Activity.expect (o.delay? n (RetryOptions.jitter draw))).bind fun delay =>
                  (log.log .info (retryingText n (n + left + 1) cause delay)).bind fun _ =>
                    (Activity.wakeUp delay).bind fun t =>
                      ((Activity.sleepUntil t).untilDone ctx).bind fun
                        | .error reason => .done (.error (.cancelled reason))
                        | .ok () => tries o log next ctx r left (n + 1)

/-- Tries a request as often as the options allow, at least once. -/
def stage (o : RetryOptions) (next : Stage) (log : Logger) : Stage := fun ctx r =>
  tries o log next ctx r (max o.maxTries.toNat 1 - 1) 1

/-- The policy for options, defaults put in. -/
def policy (o : RetryOptions) : Policy := ⟨"retry", fun next log => stage o.withDefaults next log⟩

end QueueClient.Retry
