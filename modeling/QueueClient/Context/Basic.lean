/-
# Contexts

A context says how long its user is willing to wait: until its token is cancelled or its
deadline passes, whichever comes first.  Contexts derived from another one hang below it and
never last longer.
-/
import QueueClient.Context.Token
import QueueClient.Duration

namespace QueueClient

/-- Why a context is done. -/
inductive CancelReason where
  /-- Its token was cancelled. -/
  | cancelled
  /-- Its deadline passed. -/
  | deadlineExceeded
deriving DecidableEq, Inhabited

/-- The wording of a reason. -/
def CancelReason.text : CancelReason → String
  | cancelled => "context cancelled"
  | deadlineExceeded => "context deadline exceeded"

/-- A cancellation token with a deadline, if there is one. -/
structure Context where
  /-- Cancels this context and everything derived from it. -/
  token : Token
  /-- The instant at which the context is over. -/
  deadline : Option Nat
  /-- The number of the try that the context was made for, from 1; 0 outside of tries. -/
  attempt : Nat
deriving DecidableEq, Inhabited

/-- The earlier of a deadline, if there is one, and another instant. -/
def earliest (deadline : Option Nat) (other : Nat) : Nat :=
  match deadline with
  | some d => if d < other then d else other
  | none => other

namespace Context

/-- A context without a deadline. -/
def ofToken (t : Token) : Context := ⟨t, none, 0⟩

/-- The context derived from another one with a token below its token. -/
def derive (c : Context) (token : Token) (deadline : Nat) : Context :=
  { c with token, deadline := some (earliest c.deadline deadline) }

/-- The context derived for a try. -/
def deriveFor (c : Context) (token : Token) (attempt : Nat) (deadline : Nat) : Context :=
  { c.derive token deadline with attempt }

/-- A context of its own, with a new token. -/
def root (f : TokenForest) (deadline : Option Nat) : Context × TokenForest :=
  let (token, f) := f.plant
  ({ ofToken token with deadline }, f)

/-- A context below another one that ends at an instant. -/
def child (f : TokenForest) (c : Context) (deadline : Nat) : Context × TokenForest :=
  let (token, f) := f.branch c.token
  (c.derive token deadline, f)

/-- A context below another one for a try. -/
def childFor (f : TokenForest) (c : Context) (attempt deadline : Nat) : Context × TokenForest :=
  let (token, f) := f.branch c.token
  (c.deriveFor token attempt deadline, f)

/-- Whether the deadline has passed. -/
def isOverdue (c : Context) (now : Nat) : Bool :=
  match c.deadline with
  | some d => d ≤ now
  | none => false

/-- Why the context is done, if it is. -/
def reason? (c : Context) (forest : TokenForest) (now : Nat) : Option CancelReason :=
  if forest.isCancelled c.token then some .cancelled
  else if c.isOverdue now then some .deadlineExceeded
  else none

/-- The time left until the deadline. -/
def remaining (c : Context) (now : Nat) : Option Duration :=
  c.deadline.map fun d => Instant.since d now

end Context

end QueueClient
