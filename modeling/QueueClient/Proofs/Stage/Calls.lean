/-
# The calls of a stage

To say with what and when a stage is called, a stage is put in its place that notes each call
before anything else (`Callee`): it performs the act `arrive`, and what it does then may depend on
how many calls came before, as with a script.  Where nothing else performs that act
(`Activity.Quiet`), the calls of a run are what its trace holds of it (`Activity.calls`).

All that a chain of stages does by itself is quiet, and so is what it does to make other
activities give way.
-/
import QueueClient.Proofs.Activity.Seen
import QueueClient.Stage.Basic

namespace QueueClient

/-- The act is not the note of a call. -/
def Act.IsQuiet : Act → Prop
  | .arrive _ _ => False
  | _ => True

/-- A call of a stage. -/
structure Call where
  /-- The context. -/
  context : Context
  /-- The request. -/
  request : Request
  /-- The world in which the call is made. -/
  world : World

/-- The call that an event is the note of, if it is one. -/
def Event.call? : Event → Option Call
  | .acts (.arrive c r) w => some ⟨c, r, w⟩
  | _ => none

lemma Act.IsQuiet.call?_eq_none {a : Act} (h : a.IsQuiet) (w : World) :
    (Event.acts a w).call? = none := by
  cases a with
  | arrive c r => exact absurd h id
  | _ => rfl

namespace Activity

variable {α β : Type} {w v : World}

lemma All.log {P : Act → Prop} (hP : ∀ rs, P (.record rs)) (g : Logger) (l : Level)
    (text : String) : (g.log l text).All P := by
  rw [Logger.log]
  split
  · exact ⟨hP _, fun _ => trivial⟩
  · trivial

/-- None of the acts is the note of a call. -/
abbrev Quiet (p : Activity α) : Prop := p.All Act.IsQuiet

namespace Quiet

variable {p : Activity α}

lemma watch (c : Context) (h : p.Quiet) : (p.watch c).Quiet := All.watch trivial h

lemma timeoutAt (t : ℕ) (h : p.Quiet) : (p.timeoutAt t).Quiet :=
  All.timeoutAt (fun _ => trivial) h

lemma wakeUp (d : Duration) : (Activity.wakeUp d).Quiet := All.wakeUp trivial d

lemma sleepUntil (t : ℕ) : (Activity.sleepUntil t).Quiet := All.sleepUntil (fun _ => trivial) t

lemma log (g : Logger) (l : Level) (text : String) : (g.log l text).Quiet :=
  All.log (fun _ => trivial) g l text

end Quiet

/-- The calls of a run, in order. -/
def calls (p : Activity α) (w : World) : List Call := (p.trace w).filterMap Event.call?

/-- Calls are what is seen through a view of them. -/
lemma calls_eq_seen (p : Activity α) (w : World) : p.calls w = p.seen (·.call?.toList) w := by
  rw [calls, seen, List.filterMap_eq_flatMap_toList]

lemma overlooks_call : Overlooks (·.call?.toList) Act.IsQuiet where
  waits := fun _ => rfl
  acts := fun a w ha => by rw [ha.call?_eq_none w, Option.toList_none]

lemma mem_calls {p : Activity α} {call : Call} :
    call ∈ p.calls w ↔ .acts (.arrive call.context call.request) call.world ∈ p.trace w := by
  rw [calls, List.mem_filterMap]
  constructor
  · rintro ⟨e, he, hcall⟩
    cases e with
    | waits u => exact absurd hcall (by simp [Event.call?])
    | acts a u =>
      cases a with
      | arrive c r =>
        rw [Event.call?, Option.some.injEq] at hcall
        rwa [← hcall]
      | _ => exact absurd hcall (by simp [Event.call?])
  · exact fun h => ⟨_, h, rfl⟩

@[simp] lemma calls_done (a : α) (w : World) : (done a).calls w = [] := rfl

lemma calls_act {a : Act} (ha : a.IsQuiet) (k : a.Answer → Activity α) (w : World) :
    (act a k).calls w = (k (w.perform a).1).calls (w.perform a).2 := by
  rw [calls, trace_act, List.filterMap_cons_none (ha.call?_eq_none w), calls]

@[simp] lemma calls_reason (c : Context) (k : Option CancelReason → Activity α) (w : World) :
    (act (.reason c) k).calls w = (k (c.reasonIn w)).calls w :=
  calls_act (a := .reason c) trivial k w

@[simp] lemma calls_endings (c : Context) (k : Option CancelReason → Activity α) (w : World) :
    (act (.firstDue c.endings) k).calls w = (k (c.reasonIn w)).calls w := by
  rw [calls_act (a := .firstDue c.endings) trivial k w, World.perform_endings]

@[simp] lemma calls_arrive (c : Context) (r : Request) (k : ℕ → Activity α) (w : World) :
    (act (.arrive c r) k).calls w =
      ⟨c, r, w⟩ :: (k w.arrivals.length).calls (w.perform (.arrive c r)).2 := rfl

lemma calls_bind {p : Activity α} {a : α} (h : p.run w = (some a, v)) (f : α → Activity β) :
    (p.bind f).calls w = p.calls w ++ (f a).calls v := by
  rw [calls, trace_bind_of_some h, List.filterMap_append, calls, calls]

lemma calls_bind_of_none {p : Activity α} (h : p.run w = (none, v)) (f : α → Activity β) :
    (p.bind f).calls w = p.calls w := by
  rw [calls, trace_bind_of_none h, calls]

lemma Quiet.calls_eq_nil {p : Activity α} (h : p.Quiet) (w : World) : p.calls w = [] := by
  rw [calls_eq_seen]
  exact h.seen_eq_nil overlooks_call w

end Activity

/-! ## Stages whose calls are noted -/

/-- What stands in the place of a next stage so that its calls are noted.  What it does may depend
on how many calls came before; it notes none by itself. -/
structure Callee where
  /-- What it does with a call, given the number of those before. -/
  answer : ℕ → Stage
  /-- It does not pretend to be called. -/
  quiet : ∀ n c r, (answer n c r).Quiet

/-- The stage that notes each call first. -/
def Callee.stage (callee : Callee) : Stage := fun c r =>
  .act (.arrive c r) fun n => callee.answer n c r

/-- Of a call that gives way its note is seen, if all that is done with it is overlooked. -/
lemma Callee.seen_within {γ : Type} {f : Event → List γ} {P : Act → Prop}
    (hf : Activity.Overlooks f P) (hdue : ∀ wake, P (.isDue wake)) {ctx : Context}
    (hctx : P (.firstDue ctx.endings)) {callee : Callee} {c : Context} {r : Request}
    (hanswer : ∀ n, (callee.answer n c r).All P) (t : ℕ) (w : World) :
    ((callee.stage c r).within t ctx).seen f w = f (.acts (.arrive c r) w) := by
  show (Activity.act (.arrive c r) fun n => (callee.answer n c r).within t ctx).seen f w = _
  rw [Activity.seen_act, (Activity.All.within hdue hctx (hanswer _)).seen_eq_nil hf,
    List.append_nil]

/-- What is allowed where all calls are to have a property. -/
def Act.CallsAre (P : Context → Request → World → Prop) (a : Act) (w : World) : Prop :=
  ∀ c r, a = .arrive c r → P c r w

lemma Act.IsQuiet.callsAre {P : Context → Request → World → Prop} {a : Act} {w : World}
    (h : a.IsQuiet) : a.CallsAre P w := by
  intro c r hr
  rw [hr] at h
  exact absurd h id

namespace Activity

variable {α : Type} {P : Context → Request → World → Prop} {Q : α → World → Prop} {w : World}

/-- The property that is kept along the way holds of every call. -/
lemma Safe.of_mem_calls {p : Activity α} (h : p.Safe (Act.CallsAre P) Q w) {call : Call}
    (hcall : call ∈ p.calls w) : P call.context call.request call.world :=
  h.mem_trace (mem_calls.mp hcall) _ _ rfl

lemma Safe.of_quiet {p : Activity α} (h : p.Quiet) (w : World) :
    p.Safe (Act.CallsAre P) (fun _ _ => True) w :=
  Safe.of_all (h.mono fun _ ha _ => ha.callsAre) w

/-- A call that has a property is a safe one. -/
lemma Safe.call {callee : Callee} {c : Context} {r : Request} (h : P c r w) :
    (callee.stage c r).Safe (Act.CallsAre P) (fun _ _ => True) w := by
  refine ⟨fun c' r' heq => ?_, Safe.of_quiet (callee.quiet _ c r) _⟩
  injection heq with hc hr
  rwa [← hc, ← hr]

end Activity

end QueueClient
