/-
# Scripted stages

A sender that plays a script in place of a network, and simple stages that edit a request or
leave a note.  The script has a step for each request that arrives; its last step is repeated.
-/
import QueueClient.ErrorBody
import QueueClient.Stage.Basic

namespace QueueClient

/-- What a scripted sender comes to in the end. -/
inductive ScriptAnswer where
  /-- An error. -/
  | error (e : Error)
  /-- A response with a status, header fields and a body. -/
  | response (status : Status) (headers : Headers) (body : List UInt8)
  /-- Whatever the next stage comes to. -/
  | forward
  /-- The cancellation of its context, once that comes. -/
  | awaitDone
  /-- Nothing, ever. -/
  | never

/-- What a scripted sender does with a request. -/
structure ScriptStep where
  /-- Whether the body is left alone instead of being taken. -/
  keepBody : Bool
  /-- How long it takes at first. -/
  slow : Duration
  /-- Whether it cancels the context of the caller. -/
  cancelsCaller : Bool
  /-- Whether it cancels the context that it was given. -/
  cancelsContext : Bool
  /-- What it comes to. -/
  answer : ScriptAnswer

namespace ScriptStep

/-- Answers at once that all is well. -/
def default : ScriptStep := ⟨false, .zero, false, false, .response .ok .empty []⟩

/-- What a step comes to. -/
def finish (s : ScriptStep) (next : Stage) : Stage := fun ctx r =>
  match s.answer with
  | .error e => .done (.error e)
  | .response status headers body => .done (.ok ⟨status, headers, body, r.summary⟩)
  | .forward => next ctx r
  | .awaitDone => (Activity.awaitDone ctx).bind fun reason => .done (.error (.cancelled reason))
  | .never => .never

/-- An activity that is left out unless a condition holds. -/
def optional (b : Bool) (p : Activity Unit) : Activity Unit := if b then p else .done ()

/-- What a step does once the body is dealt with. -/
def proceed (s : ScriptStep) (next : Stage) : Stage := fun ctx r => do
  Activity.sleep s.slow
  optional s.cancelsCaller (.perform .cancelCaller)
  optional s.cancelsContext (.perform (.cancel ctx.token))
  s.finish next ctx r

/-- What a step does with a request. -/
def play (s : ScriptStep) (next : Stage) : Stage := fun ctx r =>
  if s.keepBody then s.proceed next ctx r
  else
    .act (.payload r (max ctx.attempt 1)) fun
      | .ok _ => s.proceed next ctx r
      | .error e => .done (.error e)

end ScriptStep

namespace Policy

/-- The sender that plays a script. -/
def scripted (script : List ScriptStep) : Policy :=
  ⟨"scripted", fun next _ ctx r =>
    .act (.arrive ctx r) fun n =>
      ((script[min n (script.length - 1)]?).getD .default).play next ctx r⟩

/-- A stage that passes every request on. -/
def passing : Policy := ⟨noName, fun next _ => next⟩

/-- A stage that sets a header field. -/
def settingHeader (name value : String) : Policy :=
  ⟨noName, fun next _ ctx r =>
    match r.setHeader name value with
    | .ok r => next ctx r
    | .error f => .done (.error (.ofHeaderFault f))⟩

/-- A stage that sets the query. -/
def settingQuery (query : String) : Policy :=
  ⟨noName, fun next _ ctx r => next ctx { r with url := r.url.setQuery query.toList }⟩

/-- A stage that leaves a note with the number of the try. -/
def noting (level : Level) (text : String) : Policy :=
  ⟨noName, fun next log ctx r =>
    (log.log level (text ++ " attempt=" ++ toString ctx.attempt)).bind fun _ => next ctx r⟩

end Policy

end QueueClient
