/-
# The slot of a pipeline

A pipeline is built by calls that append a policy or put the slot at the current end
(`BuilderCall`).  The calls decide which policies are above the slot and which below (`SlotAt`): the
last mark counts, and without one everything is above.  The builder keeps only the list of policies
and the number of those above, so the first thing to know is that this number stands for that place
(`PipelineBuilder.slotIndex_ofCalls`).

There are two ways to put a chain together: all policies over the sender, once, or those above the
slot over a policy that a call brings along, over the part below.  Both come to the same chain as
the policies in order, the second with one more at the slot (`compose_append`), and so a call with a
policy in the slot is a call of a pipeline that was built with it there.
-/
import QueueClient.Pipeline.Basic
import QueueClient.Proofs.Activity.Runs

namespace QueueClient

open Activity

/-- A call while a pipeline is being built. -/
inductive BuilderCall where
  /-- Append a policy. -/
  | policy (p : Policy)
  /-- Put the slot at the current end. -/
  | markSlot

namespace BuilderCall

/-- The policy that a call appends, if it does. -/
def policy? : BuilderCall → Option Policy
  | policy p => some p
  | markSlot => none

/-- The policies that calls append, in order. -/
def appended (calls : List BuilderCall) : List Policy := calls.filterMap policy?

/-- The builder after a call. -/
def apply (b : PipelineBuilder) : BuilderCall → PipelineBuilder
  | policy p => b.policy p
  | markSlot => b.markSlot

end BuilderCall

/-- The calls leave the slot between two lists of policies: at the last mark, or behind all policies
if there is none. -/
inductive SlotAt : List BuilderCall → List Policy → List Policy → Prop where
  /-- There is no mark. -/
  | unmarked {calls : List BuilderCall} (h : .markSlot ∉ calls) :
    SlotAt calls (BuilderCall.appended calls) []
  /-- There is a last one. -/
  | marked (before : List BuilderCall) {after : List BuilderCall} (h : .markSlot ∉ after) :
    SlotAt (before ++ .markSlot :: after) (BuilderCall.appended before)
      (BuilderCall.appended after)

/-- Calls with one more that appends a policy at the slot: at the end if there is no mark, and else
next to the last mark, on either side of it. -/
inductive AddedAtSlot (method : Policy) : List BuilderCall → List BuilderCall → Prop where
  | unmarked {calls : List BuilderCall} (h : .markSlot ∉ calls) :
    AddedAtSlot method calls (calls ++ [.policy method])
  | above (before : List BuilderCall) {after : List BuilderCall} (h : .markSlot ∉ after) :
    AddedAtSlot method (before ++ .markSlot :: after)
      (before ++ .policy method :: .markSlot :: after)
  | below (before : List BuilderCall) {after : List BuilderCall} (h : .markSlot ∉ after) :
    AddedAtSlot method (before ++ .markSlot :: after)
      (before ++ .markSlot :: .policy method :: after)

/-- A stage that passes requests through policies in order, each in front of the next one and the
last in front of a given stage. -/
inductive InOrder (log : Logger) (last : Stage) : List Policy → Stage → Prop where
  | nil : InOrder log last [] last
  | cons {p : Policy} {ps : List Policy} {next : Stage} (rest : InOrder log last ps next) :
    InOrder log last (p :: ps) (p.create next log)

/-! ## Calls of the builder -/

namespace BuilderCall

lemma appended_append (before after : List BuilderCall) :
    appended (before ++ after) = appended before ++ appended after := List.filterMap_append

lemma appended_cons_markSlot (calls : List BuilderCall) :
    appended (.markSlot :: calls) = appended calls := rfl

end BuilderCall

/-- A list has only one last place for an element. -/
lemma last_place_unique {α : Type} {a : α} {before after before' after' : List α}
    (h : a ∉ after) (h' : a ∉ after') (heq : before ++ a :: after = before' ++ a :: after') :
    before = before' ∧ after = after' := by
  -- the longer one of the two beginnings has a gap behind the shorter one
  rcases List.append_eq_append_iff.mp heq with ⟨gap, rfl, hgap⟩ | ⟨gap, rfl, hgap⟩
  · cases gap with
    | nil => exact ⟨(List.append_nil _).symm, (List.cons.inj hgap).2⟩
    | cons c gap =>
      have hafter : after = gap ++ a :: after' := (List.cons.inj hgap).2
      exact absurd (hafter ▸ List.mem_append_right gap List.mem_cons_self) h
  · cases gap with
    | nil => exact ⟨List.append_nil _, (List.cons.inj hgap).2.symm⟩
    | cons c gap =>
      have hafter : after' = gap ++ a :: after := (List.cons.inj hgap).2
      exact absurd (hafter ▸ List.mem_append_right gap List.mem_cons_self) h'

/-- Every list of calls leaves the slot somewhere. -/
lemma exists_slotAt (calls : List BuilderCall) : ∃ above below, SlotAt calls above below := by
  induction calls with
  | nil => exact ⟨_, _, .unmarked List.not_mem_nil⟩
  | cons call calls ih =>
    obtain ⟨above, below, h⟩ := ih
    cases h with
    | marked before hafter => exact ⟨_, _, .marked (call :: before) hafter⟩
    | unmarked hcalls =>
      cases call with
      | markSlot => exact ⟨_, _, .marked [] hcalls⟩
      | policy p =>
        refine ⟨_, _, .unmarked fun hmem => ?_⟩
        rcases List.mem_cons.mp hmem with heq | hmem
        · cases heq
        · exact hcalls hmem

namespace SlotAt

variable {calls : List BuilderCall} {above below : List Policy}

/-- The slot divides the policies. -/
lemma append_eq (h : SlotAt calls above below) : above ++ below = BuilderCall.appended calls := by
  cases h with
  | unmarked _ => rw [List.append_nil]
  | marked before _ =>
    rw [BuilderCall.appended_append, BuilderCall.appended_cons_markSlot]

lemma of_unmarked (h : SlotAt calls above below) (hcalls : .markSlot ∉ calls) :
    above = BuilderCall.appended calls ∧ below = [] := by
  cases h with
  | unmarked _ => exact ⟨rfl, rfl⟩
  | marked before _ => exact absurd (List.mem_append_right before List.mem_cons_self) hcalls

lemma of_marked {before after : List BuilderCall}
    (h : SlotAt (before ++ .markSlot :: after) above below) (hafter : .markSlot ∉ after) :
    above = BuilderCall.appended before ∧ below = BuilderCall.appended after := by
  generalize hcalls : before ++ .markSlot :: after = calls at h
  cases h with
  | unmarked hno =>
    exact absurd (hcalls ▸ List.mem_append_right before List.mem_cons_self) hno
  | marked before' hafter' =>
    obtain ⟨rfl, rfl⟩ := last_place_unique hafter hafter' hcalls
    exact ⟨rfl, rfl⟩

end SlotAt

/-- After one more policy at the slot the policies are those above the slot, that one, and those
below. -/
lemma AddedAtSlot.appended_eq {method : Policy} {calls calls' : List BuilderCall}
    {above below : List Policy} (hslot : SlotAt calls above below)
    (h : AddedAtSlot method calls calls') :
    BuilderCall.appended calls' = above ++ method :: below := by
  cases h with
  | unmarked hcalls =>
    obtain ⟨rfl, rfl⟩ := hslot.of_unmarked hcalls
    exact BuilderCall.appended_append _ _
  | above before hafter | below before hafter =>
    obtain ⟨rfl, rfl⟩ := hslot.of_marked hafter
    exact BuilderCall.appended_append before _

namespace PipelineBuilder

open BuilderCall

variable {calls : List BuilderCall} {above below : List Policy}

/-- The builder after calls. -/
def ofCalls (calls : List BuilderCall) : PipelineBuilder := calls.foldl BuilderCall.apply empty

lemma policies_foldl (b : PipelineBuilder) (calls : List BuilderCall) :
    (calls.foldl BuilderCall.apply b).policies = b.policies ++ appended calls := by
  induction calls generalizing b with
  | nil => exact (List.append_nil _).symm
  | cons call calls ih =>
    rw [List.foldl_cons, ih]
    cases call with
    | policy p => exact List.append_assoc _ _ _
    | markSlot => rfl

lemma policies_ofCalls (calls : List BuilderCall) : (ofCalls calls).policies = appended calls :=
  policies_foldl empty calls

/-- Without a mark the slot stays where it is. -/
lemma slot_foldl (b : PipelineBuilder) (h : .markSlot ∉ calls) :
    (calls.foldl BuilderCall.apply b).slot = b.slot := by
  induction calls generalizing b with
  | nil => rfl
  | cons call calls ih =>
    rw [List.mem_cons, not_or] at h
    rw [List.foldl_cons, ih _ h.2]
    cases call with
    | policy p => rfl
    | markSlot => exact absurd rfl h.1

lemma slot_ofCalls_of_marked (before : List BuilderCall) (h : .markSlot ∉ calls) :
    (ofCalls (before ++ .markSlot :: calls)).slot = some (appended before).length := by
  rw [ofCalls, List.foldl_append, List.foldl_cons, slot_foldl _ h, ← policies_ofCalls before]
  rfl

/-- **The number that the builder keeps is that of the policies above the slot.** -/
theorem slotIndex_ofCalls (h : SlotAt calls above below) :
    (ofCalls calls).slotIndex = above.length := by
  cases h with
  | unmarked hcalls =>
    have hslot : (ofCalls calls).slot = none := slot_foldl empty hcalls
    rw [slotIndex, hslot, Option.getD_none, policies_ofCalls]
  | marked before hafter =>
    rw [slotIndex, slot_ofCalls_of_marked before hafter, Option.getD_some]

/-- So the list of policies is divided within its bounds. -/
lemma slotIndex_le (calls : List BuilderCall) :
    (ofCalls calls).slotIndex ≤ (ofCalls calls).policies.length := by
  obtain ⟨above, below, h⟩ := exists_slotAt calls
  rw [slotIndex_ofCalls h, policies_ofCalls, ← h.append_eq, List.length_append]
  exact Nat.le_add_right _ _

lemma onto_ofCalls (h : SlotAt calls above below) (sender : Policy) (own : Option HttpSender)
    (log : Logger) : (ofCalls calls).onto sender own log = ⟨above, below, sender, own, log⟩ := by
  rw [onto, slotIndex_ofCalls h, policies_ofCalls, ← h.append_eq, List.take_left, List.drop_left]

/-- Over a sender that is given, building always succeeds. -/
lemma run_build_ofCalls (h : SlotAt calls above below) (o : PipelineOptions) (sender : Policy)
    (collector : Collector) (net : Network) (w : World) :
    ∃ v, ((ofCalls calls).build { o with sender := some sender } collector net).run w =
      (some (.ok ⟨above, below, sender, none, ⟨o.sink, collector⟩⟩), v) := by
  rw [← onto_ofCalls h sender none ⟨o.sink, collector⟩]
  exact ⟨_, rfl⟩

end PipelineBuilder

/-! ## Chains -/

lemma compose_append (ps qs : List Policy) (last : Stage) (log : Logger) :
    compose (ps ++ qs) last log = compose ps (compose qs last log) log :=
  List.foldr_append

lemma inOrder_compose (ps : List Policy) (last : Stage) (log : Logger) :
    InOrder log last ps (compose ps last log) := by
  induction ps with
  | nil => exact .nil
  | cons p ps ih => exact .cons ih

namespace Pipeline

/-- The chain of a pipeline is that of all its policies. -/
lemma send_eq_compose (p : Pipeline) :
    p.send = compose (p.upper ++ p.lower) (p.sender.create endOfPipeline p.log) p.log := by
  rw [compose_append]
  rfl

/-- With a policy in the slot there is one more. -/
lemma sendWith_eq_compose (p : Pipeline) (method : Policy) :
    p.sendWith method = compose (p.upper ++ method :: p.lower)
      (p.sender.create endOfPipeline p.log) p.log := by
  rw [compose_append]
  rfl

/-- Requests that are sent one after the other, each with a policy of its own in the slot. -/
def sendEach (p : Pipeline) : List (Policy × Context × Request) → Activity (List Outcome)
  | [] => .done []
  | (method, ctx, r) :: rest => (p.sendWith method ctx r).bind fun x =>
    (p.sendEach rest).bind fun xs => .done (x :: xs)

end Pipeline

/-! ## Pipelines that are built by calls -/

/-- The pipeline that calls build over a sender. -/
structure IsBuilt (calls : List BuilderCall) (o : PipelineOptions) (sender : Policy)
    (collector : Collector) (net : Network) (p : Pipeline) : Prop where
  /-- It is built in every world. -/
  built : ∀ w, ∃ v, ((PipelineBuilder.ofCalls calls).build { o with sender := some sender }
    collector net).run w = (some (.ok p), v)
  /-- The slot is where the calls have left it. -/
  slot : SlotAt calls p.upper p.lower
  /-- Requests pass through the policies in the order of the calls, and then the sender. -/
  order : InOrder p.log (sender.create endOfPipeline p.log) (BuilderCall.appended calls) p.send
  /-- A policy in the slot does what it would do if the calls had put it there. -/
  method : ∀ method calls', AddedAtSlot method calls calls' → ∀ w, ∃ p' v,
    ((PipelineBuilder.ofCalls calls').build { o with sender := some sender } collector net).run w =
      (some (.ok p'), v) ∧ p.sendWith method = p'.send
  /-- The policy that adds no stage does nothing in the slot. -/
  marker : p.sendWith .slotMarker = p.send
  /-- The names show the policies in order, with the slot at its place. -/
  names : p.policyNames =
    p.upper.map (·.name) ++ slotName :: (p.lower.map (·.name) ++ [sender.name])
  /-- Whatever was in the slot of other requests before, a request is sent as in a new pipeline. -/
  again : ∀ earlier w xs v, (p.sendEach earlier).run w = (some xs, v) → ∃ fresh u,
    ((PipelineBuilder.ofCalls calls).build { o with sender := some sender } collector net).run v =
      (some (.ok fresh), u) ∧
    ∀ ctx r, ((p.sendEach earlier).bind fun _ => p.send ctx r).run w = (fresh.send ctx r).run v ∧
      ((p.sendEach earlier).bind fun _ => p.send ctx r).trace w =
        (p.sendEach earlier).trace w ++ (fresh.send ctx r).trace v

namespace Pipeline

variable {above below : List Policy} {sender : Policy} {own : Option HttpSender} {log : Logger}

/-- What a pipeline does in its slot is what one with that policy in its list does. -/
lemma sendWith_eq_send {method : Policy} {above' below' : List Policy}
    (h : above' ++ below' = above ++ method :: below) :
    Pipeline.sendWith ⟨above, below, sender, own, log⟩ method =
      Pipeline.send ⟨above', below', sender, own, log⟩ := by
  rw [sendWith_eq_compose, send_eq_compose, h]

/-- What a run did before does not matter to the request that is sent next. -/
lemma run_sendEach_bind (p : Pipeline) {earlier : List (Policy × Context × Request)} {w v : World}
    {xs : List Outcome} (h : (p.sendEach earlier).run w = (some xs, v)) (ctx : Context)
    (r : Request) :
    ((p.sendEach earlier).bind fun _ => p.send ctx r).run w = (p.send ctx r).run v ∧
      ((p.sendEach earlier).bind fun _ => p.send ctx r).trace w =
        (p.sendEach earlier).trace w ++ (p.send ctx r).trace v :=
  ⟨run_bind_of_some h _, trace_bind_of_some h _⟩

end Pipeline

/-- **A pipeline is its policies in order, and its slot is a place among them.**  Whatever the calls
that build it, the list of policies is divided within its bounds, and over a sender that is given
there is a pipeline in which the slot is where the calls have left it, requests pass through the
policies in their order, and a policy in the slot does what it would do in the list. -/
theorem pipeline_method_slot (calls : List BuilderCall) (o : PipelineOptions) (sender : Policy)
    (collector : Collector) (net : Network) :
    (PipelineBuilder.ofCalls calls).slotIndex ≤ (PipelineBuilder.ofCalls calls).policies.length ∧
      ∃ p, IsBuilt calls o sender collector net p := by
  refine ⟨PipelineBuilder.slotIndex_le calls, ?_⟩
  obtain ⟨above, below, hslot⟩ := exists_slotAt calls
  have hbuilt := PipelineBuilder.run_build_ofCalls hslot o sender collector net
  refine ⟨⟨above, below, sender, none, ⟨o.sink, collector⟩⟩, ?_⟩
  constructor
  case built => exact hbuilt
  case slot => exact hslot
  case order =>
    rw [Pipeline.send_eq_compose, ← hslot.append_eq]
    exact inOrder_compose _ _ _
  case method =>
    intro method calls' hadded w
    obtain ⟨above', below', hslot'⟩ := exists_slotAt calls'
    obtain ⟨v, hrun⟩ := PipelineBuilder.run_build_ofCalls hslot' o sender collector net w
    refine ⟨_, v, hrun, ?_⟩
    apply Pipeline.sendWith_eq_send
    rw [hslot'.append_eq, hadded.appended_eq hslot]
  case marker => rfl
  case names =>
    rw [Pipeline.policyNames, List.append_assoc, List.append_assoc]
    rfl
  case again =>
    intro earlier w xs v hrun
    obtain ⟨u, hfresh⟩ := hbuilt v
    exact ⟨_, u, hfresh, Pipeline.run_sendEach_bind _ hrun⟩

end QueueClient
