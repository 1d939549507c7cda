/-
# Stages

A stage takes a request with a context and comes to a response or an error, mostly by way of
the next stage.  A policy makes a stage out of the next one.
-/
import QueueClient.Activity.Basic

namespace QueueClient

/-- What a request comes to. -/
abbrev Outcome := Except Error Response

/-- One link of a chain: what is done with a request. -/
abbrev Stage := Context → Request → Activity Outcome

/-- A named way to put a stage in front of the next one. -/
structure Policy where
  /-- The name, for diagnostics. -/
  name : String
  /-- The stage in front of the next one. -/
  create : Stage → Logger → Stage

/-- The name of policies that have none. -/
def Policy.noName : String := "unnamed"

/-- Leaves an entry, if it is wanted; its text is not looked at otherwise. -/
def Logger.log (g : Logger) (l : Level) (text : String) : Activity Unit :=
  if g.accepts l then .perform (.record (g.write l text)) else .done ()

end QueueClient
