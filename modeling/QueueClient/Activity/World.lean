/-
# Running activities

The world holds everything that activities act on: the clock, tokens, streams, the draws of
chance and so on.  Running an activity performs its acts one by one.  The clock stands still
except while the activity waits; then it moves straight to the instant at which the wait ends.
Alarms come from outside: each cancels a token at its time.  When a timer goes off at the same
millisecond, an alarm says itself whether it comes before that timer or after it.
-/
import QueueClient.Activity.Basic

namespace QueueClient

/-- A cancellation from outside, to come at a set time. -/
structure Alarm where
  /-- When it comes. -/
  time : Nat
  /-- What it cancels. -/
  token : Token
  /-- Whether it comes before a timer that goes off at the same millisecond. -/
  first : Bool
deriving DecidableEq, Inhabited

/-- Whether an alarm comes after the timer for an instant. -/
def Alarm.IsAfter (a : Alarm) (t : Nat) : Prop :=
  Instant.tick t < Instant.tick a.time ∨ Instant.tick t = Instant.tick a.time ∧ a.first = false

instance (a : Alarm) (t : Nat) : Decidable (a.IsAfter t) :=
  inferInstanceAs (Decidable (_ ∨ _ ∧ _))

/-- A request as it reached the last stage. -/
structure Arrival where
  /-- When it did. -/
  time : Nat
  /-- The context it came with. -/
  context : Context
  /-- The request. -/
  request : Request
deriving DecidableEq, Inhabited

/-- What activities act on. -/
structure World where
  /-- The clock, in nanoseconds since the start; whole milliseconds. -/
  now : Nat
  /-- The tokens. -/
  forest : TokenForest
  /-- Cancellations to come, earliest first. -/
  alarms : List Alarm
  /-- The token of whoever waits for the request that is being sent. -/
  caller : Token
  /-- How many request ids were made up. -/
  idsMade : Nat
  /-- The numbers that chance draws, over and over. -/
  draws : List Binary64
  /-- How many were drawn. -/
  drawn : Nat
  /-- The streams of bodies. -/
  streams : Streams
  /-- The key of the account. -/
  accountKey : List UInt8
  /-- The families of senders. -/
  families : Families
  /-- The requests that reached the last stage, in order. -/
  arrivals : List Arrival
  /-- The log records, in order. -/
  records : List LogRecord
deriving Inhabited

namespace World

/-- The world at the start of a run. -/
def start (draws : List Binary64) : World :=
  { now := 0, forest := .empty, alarms := [], caller := default, idsMade := 0, draws, drawn := 0,
    streams := .empty, accountKey := [], families := .empty, arrivals := [], records := [] }

/-- The `n`-th request id, counted from 1. -/
def requestId (n : Nat) : String :=
  let digits := Nat.toDigits 16 n
  "00000000-0000-4000-8000-" ++
    String.ofList (List.replicate (12 - digits.length) '0' ++ digits)

/-- The next draw; a half if there is nothing to draw from. -/
def nextDraw (w : World) : Binary64 :=
  w.draws.getD (w.drawn % w.draws.length) (.ofDecimal false 5 (-1))

/-- The answer to an act and the world after it. -/
def perform (w : World) : (a : Act) → a.Answer × World
  | .now => (w.now, w)
  | .isDue wake => (wake.isDue w.forest w.now, w)
  | .reason c => (c.reason? w.forest w.now, w)
  | .firstDue ws => ((ws.find? fun e => e.1.isDue w.forest w.now).map (·.2), w)
  | .branch t =>
    let (token, forest) := w.forest.branch t
    (token, { w with forest })
  | .cancel t => ((), { w with forest := w.forest.cancel t })
  | .cancelCaller => ((), { w with forest := w.forest.cancel w.caller })
  | .newId => (requestId (w.idsMade + 1), { w with idsMade := w.idsMade + 1 })
  | .draw => (w.nextDraw, { w with drawn := w.drawn + 1 })
  | .rewind r attempt => (r.rewind w.streams attempt, w)
  | .payload r attempt =>
    let (payload, streams) := r.payload w.streams attempt
    (payload, { w with streams })
  | .accountKey => (w.accountKey, w)
  | .storeKey accountKey => ((), { w with accountKey })
  | .isShut family => (w.families.isShut family, w)
  | .openFamily =>
    let (family, families) := w.families.add
    (family, { w with families })
  | .shutDown family =>
    (!w.families.isShut family, { w with families := w.families.shutDown family })
  | .arrive context request =>
    (w.arrivals.length, { w with arrivals := w.arrivals ++ [⟨w.now, context, request⟩] })
  | .record rs => ((), { w with records := w.records ++ rs })

/-- Moves the clock on to an instant, unless it is past that already. -/
def advanceTo (w : World) (t : Nat) : World := { w with now := max w.now (Instant.tick t) }

/-- The wait until one of the alarms, which are all that is to come besides the timer, or the timer
ends it. -/
def sleepThrough (wake : Wake) (w : World) : List Alarm → Option World
  | [] =>
    if wake.isDue w.forest w.now then some { w with alarms := [] }
    else wake.timer.map fun t => { w with alarms := [] }.advanceTo t
  | a :: rest =>
    if wake.isDue w.forest w.now then some { w with alarms := a :: rest }
    else
      match wake.timer with
      | some t =>
        if a.IsAfter t then
          some ({ w with alarms := a :: rest }.advanceTo t)
        else
          sleepThrough wake { w.advanceTo a.time with forest := w.forest.cancel a.token } rest
      | none =>
        sleepThrough wake { w.advanceTo a.time with forest := w.forest.cancel a.token } rest

/-- The world at the end of a wait; `none` if the wait never ends. -/
def sleep (w : World) (wake : Wake) : Option World := w.sleepThrough wake w.alarms

end World

/-- What an activity comes to and the world then; `none` if it waits for ever or breaks off. -/
def Activity.run {α : Type} : Activity α → World → Option α × World
  | done a, w => (some a, w)
  | act a k, w =>
    let (x, w') := w.perform a
    (k x).run w'
  | wait wake k, w =>
    match w.sleep wake with
    | some w' => k.run w'
    | none => (none, w)
  | never, w => (none, w)
  | abort, w => (none, w)

/-- Whether an activity breaks off. -/
def Activity.aborts {α : Type} : Activity α → World → Bool
  | done _, _ => false
  | act a k, w =>
    let (x, w') := w.perform a
    (k x).aborts w'
  | wait wake k, w =>
    match w.sleep wake with
    | some w' => k.aborts w'
    | none => false
  | never, _ => false
  | abort, _ => true

end QueueClient
