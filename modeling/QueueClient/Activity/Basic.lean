/-
# Activities

An activity is a computation that may wait: a tree whose inner nodes are acts on the world and
waits.  An act asks the world something or changes it, and the activity goes on with the
answer; a wait ends when its timer is due or one of its tokens is cancelled.  As every activity
is a finite tree of such steps, nothing is said here about how time passes: `World` runs
activities.  An activity can also break off: a value is missing that has to be there, and whoever
waits for the activity breaks off with it.

Two combinators make activities give way: `untilDone` stops at the moment a context is done,
and `timeoutAt` when an instant has come.  Both look in a fixed order when several things are
due at once: the context before the activity, the activity before the timer.
-/
import QueueClient.Binary64
import QueueClient.Log
import QueueClient.Replay
import QueueClient.Sender.Families

namespace QueueClient

/-- What ends a wait: a timer, if there is one, and tokens. -/
structure Wake where
  /-- The instant at which the wait ends. -/
  timer : Option Nat
  /-- The tokens whose cancellation ends the wait. -/
  tokens : List Token
deriving DecidableEq, Inhabited

namespace Wake

/-- The earlier of two timers. -/
def earlier : Option Nat → Option Nat → Option Nat
  | some a, some b => some (min a b)
  | some a, none => some a
  | none, b => b

/-- What ends either of two waits. -/
def or (a b : Wake) : Wake := ⟨earlier a.timer b.timer, a.tokens ++ b.tokens⟩

/-- A timer alone. -/
def ofTimer (t : Nat) : Wake := ⟨some t, []⟩

/-- The cancellation of a token alone. -/
def ofToken (t : Token) : Wake := ⟨none, [t]⟩

/-- What makes a context done. -/
def ofContext (c : Context) : Wake := ⟨c.deadline, [c.token]⟩

/-- Whether the wait is over. -/
def isDue (w : Wake) (forest : TokenForest) (now : Nat) : Bool :=
  (match w.timer with
    | some t => decide (t ≤ now)
    | none => false) || w.tokens.any forest.isCancelled

end Wake

/-- The waits for the end of a context, with the reason that each of them gives: for its token, and
for its deadline if it has one.  When both are over, the first one counts. -/
def Context.endings (c : Context) : List (Wake × CancelReason) :=
  (.ofToken c.token, .cancelled) ::
    (c.deadline.map fun t => (Wake.ofTimer t, CancelReason.deadlineExceeded)).toList

/-- Questions to the world and changes of it. -/
inductive Act where
  /-- What time is it? -/
  | now
  /-- Is this wait over? -/
  | isDue (w : Wake)
  /-- Is this context done, and why? -/
  | reason (c : Context)
  /-- Which of these waits is the first that is over, and what does it stand for? -/
  | firstDue (ws : List (Wake × CancelReason))
  /-- Make a token below another one. -/
  | branch (t : Token)
  /-- Cancel a token. -/
  | cancel (t : Token)
  /-- Cancel the token of whoever waits for the request that is being sent. -/
  | cancelCaller
  /-- Make up a request id. -/
  | newId
  /-- Draw a number from 0 to 1. -/
  | draw
  /-- Get a copy of a request for a try. -/
  | rewind (r : Request) (attempt : Nat)
  /-- Take the payload of a request for a try. -/
  | payload (r : Request) (attempt : Nat)
  /-- What is the key of the account? -/
  | accountKey
  /-- Make this the key of the account. -/
  | storeKey (key : List UInt8)
  /-- Is this family of senders shut down? -/
  | isShut (family : Nat)
  /-- Set up a new family of senders. -/
  | openFamily
  /-- Shut this family of senders down; was it up until now? -/
  | shutDown (family : Nat)
  /-- Note that a request has reached the last stage; how many have before? -/
  | arrive (c : Context) (r : Request)
  /-- Leave log records. -/
  | record (rs : List LogRecord)

/-- What the world answers to an act. -/
@[reducible] def Act.Answer : Act → Type
  | now => Nat
  | isDue _ => Bool
  | reason _ => Option CancelReason
  | firstDue _ => Option CancelReason
  | branch _ => Token
  | cancel _ => Unit
  | cancelCaller => Unit
  | newId => String
  | draw => Binary64
  | rewind _ _ => Except Error Request
  | payload _ _ => Except Error (Option Payload)
  | accountKey => List UInt8
  | storeKey _ => Unit
  | isShut _ => Bool
  | openFamily => Nat
  | shutDown _ => Bool
  | arrive _ _ => Nat
  | record _ => Unit

/-- A computation that acts on the world and may wait. -/
inductive Activity (α : Type) where
  /-- It is over. -/
  | done (a : α)
  /-- It acts and goes on with the answer. -/
  | act (a : Act) (k : a.Answer → Activity α)
  /-- It waits and then goes on. -/
  | wait (w : Wake) (k : Activity α)
  /-- It waits for something that never comes. -/
  | never
  /-- It breaks off. -/
  | abort

namespace Activity

variable {α β : Type}

/-- One activity after another. -/
def bind : Activity α → (α → Activity β) → Activity β
  | done a, f => f a
  | act a k, f => act a fun x => (k x).bind f
  | wait w k, f => wait w (k.bind f)
  | never, _ => never
  | abort, _ => abort

instance : Monad Activity where
  pure := done
  bind := bind

/-- An act by itself. -/
def perform (a : Act) : Activity a.Answer := act a done

/-- A value that has to be there. -/
def expect : Option α → Activity α
  | some a => done a
  | none => abort

/-- The activity that lasts until an instant. -/
def sleepUntil (t : Nat) : Activity Unit :=
  act (.isDue (.ofTimer t)) fun due => if due then done () else wait (.ofTimer t) (done ())

/-- The instant at which a wait of some length that begins now ends. -/
def wakeUp (d : Duration) : Activity Nat := act .now fun now => expect (Instant.wakeUp? now d)

/-- The activity that lasts for a span of time. -/
def sleep (d : Duration) : Activity Unit := (wakeUp d).bind sleepUntil

/-- The activity that lasts until a context is done.  It does not ask the context why: it waits for
both ends and goes by the first that has come. -/
def awaitDone (c : Context) : Activity CancelReason :=
  act (.firstDue c.endings) fun
    | some r => done r
    | none => wait (.ofContext c) (act (.firstDue c.endings) fun
      | some r => done r
      | none => never)

/-! ## Giving way -/

/-- The rest of `untilDone`, with the activity already under way. -/
def watch (c : Context) : Activity α → Activity (Except CancelReason α)
  | done a => done (.ok a)
  | act a k => act a fun x => (k x).watch c
  | wait w k =>
    act (.firstDue c.endings) fun
      | some r => done (.error r)
      | none => wait (w.or (.ofContext c)) (act (.firstDue c.endings) fun
        | some r => done (.error r)
        | none => k.watch c)
  | never =>
    act (.firstDue c.endings) fun
      | some r => done (.error r)
      | none => wait (.ofContext c) (act (.firstDue c.endings) fun
        | some r => done (.error r)
        | none => never)
  | abort => abort

/-- The activity as long as the context is not done.  The context is looked at before the activity
begins, whenever it would wait, and before it goes on after a wait. -/
def untilDone (c : Context) (p : Activity α) : Activity (Except CancelReason α) :=
  act (.firstDue c.endings) fun
    | some r => done (.error r)
    | none => p.watch c

/-- The activity as long as an instant has not come.  The activity goes on first when its wait ends
at the same time. -/
def timeoutAt (t : Nat) : Activity α → Activity (Option α)
  | done a => done (some a)
  | act a k => act a fun x => (k x).timeoutAt t
  | wait w k =>
    act (.isDue (.ofTimer t)) fun late =>
      if late then done none
      else wait (w.or (.ofTimer t)) (act (.isDue w) fun ready =>
        if ready then k.timeoutAt t else done none)
  | never =>
    act (.isDue (.ofTimer t)) fun late =>
      if late then done none else wait (.ofTimer t) (done none)
  | abort => abort

end Activity

end QueueClient
