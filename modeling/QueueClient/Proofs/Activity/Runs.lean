/-
# Runs and what is seen of them

Besides its result and its last world, a run has a trace: the acts that it performs, each with
the world in which it does, and the worlds in which it waits.  A trace shows everything that
happens between the beginning and the end of a run, so that a property of all moments of a run is
a property of the events of its trace.

Runs and traces follow the structure of activities (`run_bind_of_some`, `trace_bind_of_some`), and
so does what breaks off (`aborts_bind_of_none`).
A predicate on acts that holds of every act that an activity can perform, whatever it is answered
(`Activity.All`), holds of every act in every trace of it.
-/
import QueueClient.Proofs.Activity.Waiting

namespace QueueClient

/-- What can be seen of a run. -/
inductive Event where
  /-- It performs an act in a world. -/
  | acts (a : Act) (w : World)
  /-- It waits in a world. -/
  | waits (w : World)

/-- The world in which an event happens. -/
def Event.world : Event → World
  | acts _ w => w
  | waits w => w

namespace World

/-- One world is not before another: its clock has not moved or stands at a whole millisecond, and
what was cancelled in the other is cancelled. -/
structure Later (w v : World) : Prop where
  now_le : w.now ≤ v.now
  ticks : v.now = w.now ∨ Instant.tick v.now = v.now
  marked : w.forest.marked <:+ v.forest.marked

namespace Later

variable {u v w : World}

lemma refl (w : World) : w.Later w := ⟨le_refl _, Or.inl rfl, List.suffix_refl _⟩

lemma trans (huv : u.Later v) (hvw : v.Later w) : u.Later w := by
  refine ⟨huv.now_le.trans hvw.now_le, ?_, huv.marked.trans hvw.marked⟩
  rcases hvw.ticks with h | h
  · rw [h]
    exact huv.ticks
  · exact Or.inr h

lemma of_passes (h : w.Passes v) : w.Later v := ⟨h.now_le, h.ticks, h.marked⟩

lemma isCancelled (h : w.Later v) {t : Token} (ht : w.forest.isCancelled t = true) :
    v.forest.isCancelled t = true :=
  TokenForest.isCancelled_mono h.marked ht

/-- A token that is not cancelled was not cancelled before. -/
lemma not_isCancelled (h : w.Later v) {t : Token} (ht : v.forest.isCancelled t = false) :
    w.forest.isCancelled t = false := by
  rw [← Bool.not_eq_true] at ht ⊢
  exact fun hw => ht (h.isCancelled hw)

end Later

/-- No act takes time. -/
@[simp] lemma perform_now (w : World) (a : Act) : (w.perform a).2.now = w.now := by
  cases a <;> rfl

@[simp] lemma perform_clock (w : World) : w.perform .now = (w.now, w) := rfl

@[simp] lemma perform_isDue (w : World) (wake : Wake) :
    w.perform (.isDue wake) = (wake.isDueIn w, w) := rfl

@[simp] lemma perform_reason (w : World) (c : Context) :
    w.perform (.reason c) = (c.reasonIn w, w) := rfl

lemma later_perform (w : World) (a : Act) : w.Later (w.perform a).2 := by
  refine ⟨(perform_now w a).ge, Or.inl (perform_now w a), ?_⟩
  cases a with
  | cancel t => exact List.suffix_cons _ _
  | cancelCaller => exact List.suffix_cons _ _
  | _ => exact List.suffix_refl _

end World

namespace Activity

variable {α β : Type} {w v : World}

@[simp] lemma run_done (a : α) (w : World) : (done a).run w = (some a, w) := rfl

@[simp] lemma run_act (a : Act) (k : a.Answer → Activity α) (w : World) :
    (act a k).run w = (k (w.perform a).1).run (w.perform a).2 := rfl

@[simp] lemma run_never (w : World) : (never : Activity α).run w = (none, w) := rfl

@[simp] lemma run_abort (w : World) : (abort : Activity α).run w = (none, w) := rfl

lemma run_wait_of_some {wake : Wake} (h : w.sleep wake = some v) (k : Activity α) :
    (wait wake k).run w = k.run v := by
  simp only [run, h]

lemma run_wait_of_none {wake : Wake} (h : w.sleep wake = none) (k : Activity α) :
    (wait wake k).run w = (none, w) := by
  simp only [run, h]

@[simp] lemma bind_done (a : α) (f : α → Activity β) : (done a).bind f = f a := rfl

@[simp] lemma bind_act (a : Act) (k : a.Answer → Activity α) (f : α → Activity β) :
    (act a k).bind f = act a fun x => (k x).bind f := rfl

@[simp] lemma bind_wait (wake : Wake) (k : Activity α) (f : α → Activity β) :
    (wait wake k).bind f = wait wake (k.bind f) := rfl

@[simp] lemma bind_never (f : α → Activity β) : (never : Activity α).bind f = never := rfl

@[simp] lemma bind_abort (f : α → Activity β) : (abort : Activity α).bind f = abort := rfl

@[simp] lemma bind_expect_some (a : α) (f : α → Activity β) : (expect (some a)).bind f = f a := rfl

@[simp] lemma bind_expect_none (f : α → Activity β) :
    (expect (none : Option α)).bind f = abort := rfl

lemma bind_done_right (p : Activity α) : p.bind done = p := by
  induction p with
  | done a => rfl
  | act a k ih => rw [bind_act, funext ih]
  | wait wake k ih => rw [bind_wait, ih]
  | never | abort => rfl

lemma bind_assoc {γ : Type} (p : Activity α) (f : α → Activity β) (g : β → Activity γ) :
    (p.bind f).bind g = p.bind fun a => (f a).bind g := by
  induction p with
  | done a => rfl
  | act a k ih =>
    rw [bind_act, bind_act, bind_act]
    exact congrArg _ (funext ih)
  | wait wake k ih => rw [bind_wait, bind_wait, bind_wait, ih]
  | never | abort => rfl

lemma run_bind_of_some {p : Activity α} {a : α} (h : p.run w = (some a, v))
    (f : α → Activity β) : (p.bind f).run w = (f a).run v := by
  induction p generalizing w with
  | done b =>
    rw [run_done, Prod.mk.injEq, Option.some.injEq] at h
    rw [bind_done, h.1, h.2]
  | act b k ih => exact ih _ h
  | wait wake k ih =>
    cases hs : w.sleep wake with
    | none =>
      rw [run_wait_of_none hs] at h
      exact absurd (congrArg Prod.fst h) (by simp)
    | some u =>
      rw [run_wait_of_some hs] at h
      rw [bind_wait, run_wait_of_some hs]
      exact ih h
  | never | abort => exact absurd (congrArg Prod.fst h) (by simp)

lemma run_bind_of_none {p : Activity α} (h : p.run w = (none, v)) (f : α → Activity β) :
    (p.bind f).run w = (none, v) := by
  induction p generalizing w with
  | done b => exact absurd (congrArg Prod.fst h) (by simp)
  | act b k ih => exact ih _ h
  | wait wake k ih =>
    cases hs : w.sleep wake with
    | none =>
      rw [run_wait_of_none hs] at h
      rw [bind_wait, run_wait_of_none hs, (Prod.mk.inj h).2]
    | some u =>
      rw [run_wait_of_some hs] at h
      rw [bind_wait, run_wait_of_some hs]
      exact ih h
  | never | abort => exact congrArg (Prod.mk none) (Prod.mk.inj h).2

/-! ## Breaking off -/

@[simp] lemma aborts_done (a : α) (w : World) : (done a).aborts w = false := rfl

@[simp] lemma aborts_act (a : Act) (k : a.Answer → Activity α) (w : World) :
    (act a k).aborts w = (k (w.perform a).1).aborts (w.perform a).2 := rfl

@[simp] lemma aborts_never (w : World) : (never : Activity α).aborts w = false := rfl

@[simp] lemma aborts_abort (w : World) : (abort : Activity α).aborts w = true := rfl

lemma aborts_wait_of_some {wake : Wake} (h : w.sleep wake = some v) (k : Activity α) :
    (wait wake k).aborts w = k.aborts v := by
  simp only [aborts, h]

lemma aborts_wait_of_none {wake : Wake} (h : w.sleep wake = none) (k : Activity α) :
    (wait wake k).aborts w = false := by
  simp only [aborts, h]

/-- What comes to a result does not break off. -/
lemma aborts_of_run {p : Activity α} {a : α} (h : p.run w = (some a, v)) :
    p.aborts w = false := by
  induction p generalizing w with
  | done b => rfl
  | act b k ih => exact ih _ h
  | wait wake k ih =>
    cases hs : w.sleep wake with
    | none => exact aborts_wait_of_none hs k
    | some u =>
      rw [run_wait_of_some hs] at h
      rw [aborts_wait_of_some hs]
      exact ih h
  | never | abort => exact absurd (congrArg Prod.fst h) (by simp)

lemma aborts_bind_of_some {p : Activity α} {a : α} (h : p.run w = (some a, v))
    (f : α → Activity β) : (p.bind f).aborts w = (f a).aborts v := by
  induction p generalizing w with
  | done b =>
    rw [run_done, Prod.mk.injEq, Option.some.injEq] at h
    rw [bind_done, h.1, h.2]
  | act b k ih => exact ih _ h
  | wait wake k ih =>
    cases hs : w.sleep wake with
    | none =>
      rw [run_wait_of_none hs] at h
      exact absurd (congrArg Prod.fst h) (by simp)
    | some u =>
      rw [run_wait_of_some hs] at h
      rw [bind_wait, aborts_wait_of_some hs]
      exact ih h
  | never | abort => exact absurd (congrArg Prod.fst h) (by simp)

lemma aborts_bind_of_none {p : Activity α} (h : p.run w = (none, v)) (f : α → Activity β) :
    (p.bind f).aborts w = p.aborts w := by
  induction p generalizing w with
  | done b => exact absurd (congrArg Prod.fst h) (by simp)
  | act b k ih => exact ih _ h
  | wait wake k ih =>
    cases hs : w.sleep wake with
    | none => rw [bind_wait, aborts_wait_of_none hs, aborts_wait_of_none hs]
    | some u =>
      rw [run_wait_of_some hs] at h
      rw [bind_wait, aborts_wait_of_some hs, aborts_wait_of_some hs]
      exact ih h
  | never | abort => rfl

/-- What follows on something that breaks off breaks off with it. -/
lemma aborts_bind {p : Activity α} (h : p.aborts w = true) (f : α → Activity β) :
    (p.bind f).aborts w = true := by
  rcases hrun : p.run w with ⟨_ | a, v⟩
  · rw [aborts_bind_of_none hrun, h]
  · exact nomatch h.symm.trans (aborts_of_run hrun)

lemma later_run (p : Activity α) (w : World) : w.Later (p.run w).2 := by
  induction p generalizing w with
  | done a => exact World.Later.refl w
  | act a k ih => exact (w.later_perform a).trans (ih _ _)
  | wait wake k ih =>
    cases hs : w.sleep wake with
    | none => rw [run_wait_of_none hs]; exact World.Later.refl w
    | some u =>
      rw [run_wait_of_some hs]
      exact (World.Later.of_passes (World.passes_of_sleep hs)).trans (ih u)
  | never | abort => exact World.Later.refl w

lemma later_of_run {p : Activity α} {x : Option α} (h : p.run w = (x, v)) : w.Later v := by
  have := later_run p w
  rwa [h] at this

/-! ## Traces -/

/-- The events of a run, in order. -/
def trace : Activity α → World → List Event
  | done _, _ => []
  | act a k, w => .acts a w :: (k (w.perform a).1).trace (w.perform a).2
  | wait wake k, w =>
    (w.pause wake).map .waits ++
      match w.sleep wake with
      | some v => k.trace v
      | none => []
  | never, w => [.waits w]
  | abort, _ => []

@[simp] lemma trace_done (a : α) (w : World) : (done a).trace w = [] := rfl

@[simp] lemma trace_act (a : Act) (k : a.Answer → Activity α) (w : World) :
    (act a k).trace w = .acts a w :: (k (w.perform a).1).trace (w.perform a).2 := rfl

lemma trace_wait_of_some {wake : Wake} (h : w.sleep wake = some v) (k : Activity α) :
    (wait wake k).trace w = (w.pause wake).map .waits ++ k.trace v := by
  simp only [trace, h]

lemma trace_wait_of_none {wake : Wake} (h : w.sleep wake = none) (k : Activity α) :
    (wait wake k).trace w = (w.pause wake).map .waits := by
  simp only [trace, h, List.append_nil]

/-- The events of a wait and of what follows it. -/
lemma mem_trace_wait {wake : Wake} {k : Activity α} {e : Event} :
    e ∈ (wait wake k).trace w ↔
      (∃ u ∈ w.pause wake, e = .waits u) ∨ ∃ u, w.sleep wake = some u ∧ e ∈ k.trace u := by
  cases hs : w.sleep wake with
  | none => simp [trace_wait_of_none hs, eq_comm]
  | some u => simp [trace_wait_of_some hs, eq_comm]

/-- All events happen before the end. -/
lemma later_end_of_mem_trace {p : Activity α} {e : Event} {a : α} (h : e ∈ p.trace w)
    (hrun : p.run w = (some a, v)) : e.world.Later v := by
  induction p generalizing w with
  | done b => simp at h
  | act b k ih =>
    rw [run_act] at hrun
    rw [trace_act, List.mem_cons] at h
    rcases h with rfl | h
    · exact (w.later_perform b).trans (later_of_run hrun)
    · exact ih _ h hrun
  | wait wake k ih =>
    cases hs : w.sleep wake with
    | none =>
      rw [run_wait_of_none hs] at hrun
      exact absurd (congrArg Prod.fst hrun) (by simp)
    | some u =>
      rw [run_wait_of_some hs] at hrun
      rcases mem_trace_wait.mp h with ⟨u', hu, rfl⟩ | ⟨u', hs', h⟩
      · exact (World.Later.of_passes (World.passes_end_of_mem_pause hu hs)).trans
          (later_of_run hrun)
      · rw [hs, Option.some.injEq] at hs'
        subst hs'
        exact ih h hrun
  | never | abort => exact absurd (congrArg Prod.fst hrun) (by simp)

/-- Unless it is over at once, a run has an event in its first world. -/
lemma exists_mem_trace (p : Activity α) (w : World) :
    (p.run w).2 = w ∨ ∃ e ∈ p.trace w, e.world = w := by
  cases p with
  | done _ | abort => exact Or.inl rfl
  | act a k => exact Or.inr ⟨_, List.mem_cons_self, rfl⟩
  | wait wake k =>
    exact Or.inr ⟨.waits w, mem_trace_wait.mpr (Or.inl ⟨w, World.mem_pause_self w wake, rfl⟩), rfl⟩
  | never => exact Or.inr ⟨.waits w, List.mem_singleton_self _, rfl⟩

lemma trace_bind_of_some {p : Activity α} {a : α} (h : p.run w = (some a, v))
    (f : α → Activity β) : (p.bind f).trace w = p.trace w ++ (f a).trace v := by
  induction p generalizing w with
  | done b =>
    rw [run_done, Prod.mk.injEq, Option.some.injEq] at h
    rw [bind_done, trace_done, List.nil_append, h.1, h.2]
  | act b k ih =>
    rw [run_act] at h
    rw [bind_act, trace_act, trace_act, List.cons_append, ih _ h]
  | wait wake k ih =>
    cases hs : w.sleep wake with
    | none =>
      rw [run_wait_of_none hs] at h
      exact absurd (congrArg Prod.fst h) (by simp)
    | some u =>
      rw [run_wait_of_some hs] at h
      rw [bind_wait, trace_wait_of_some hs, trace_wait_of_some hs, List.append_assoc, ih h]
  | never | abort => exact absurd (congrArg Prod.fst h) (by simp)

lemma trace_bind_of_none {p : Activity α} (h : p.run w = (none, v)) (f : α → Activity β) :
    (p.bind f).trace w = p.trace w := by
  induction p generalizing w with
  | done b => exact absurd (congrArg Prod.fst h) (by simp)
  | act b k ih =>
    rw [run_act] at h
    rw [bind_act, trace_act, trace_act, ih _ h]
  | wait wake k ih =>
    cases hs : w.sleep wake with
    | none => rw [bind_wait, trace_wait_of_none hs, trace_wait_of_none hs]
    | some u =>
      rw [run_wait_of_some hs] at h
      rw [bind_wait, trace_wait_of_some hs, trace_wait_of_some hs, ih h]
  | never | abort => rfl

/-! ## What an activity can do at all -/

/-- Every act that the activity can perform is of a kind, whatever it is answered. -/
def All (P : Act → Prop) : Activity α → Prop
  | done _ => True
  | act a k => P a ∧ ∀ x, (k x).All P
  | wait _ k => k.All P
  | never => True
  | abort => True

lemma All.mono {P Q : Act → Prop} {p : Activity α} (hp : p.All P) (h : ∀ a, P a → Q a) :
    p.All Q := by
  induction p with
  | done a => trivial
  | act a k ih => exact ⟨h a hp.1, fun x => ih x (hp.2 x)⟩
  | wait wake k ih => exact ih hp
  | never | abort => trivial

lemma All.bind {P : Act → Prop} {p : Activity α} {f : α → Activity β} (hp : p.All P)
    (hf : ∀ a, (f a).All P) : (p.bind f).All P := by
  induction p with
  | done a => exact hf a
  | act a k ih => exact ⟨hp.1, fun x => ih x (hp.2 x)⟩
  | wait wake k ih => exact ih hp
  | never | abort => trivial

/-- What neither a wait nor any act of an activity changes is at its end what it was. -/
lemma All.kept_of_run {γ : Type} {P : Act → Prop} {f : World → γ} {p : Activity α} {x : Option α}
    (hp : p.All P) (hwait : ∀ w v, w.Passes v → f v = f w)
    (hact : ∀ a w, P a → f (w.perform a).2 = f w) (h : p.run w = (x, v)) : f v = f w := by
  induction p generalizing w with
  | done a =>
    rw [run_done, Prod.mk.injEq] at h
    rw [← h.2]
  | act a k ih =>
    rw [run_act] at h
    rw [ih _ (hp.2 _) h, hact a w hp.1]
  | wait wake k ih =>
    cases hs : w.sleep wake with
    | none =>
      rw [run_wait_of_none hs, Prod.mk.injEq] at h
      rw [← h.2]
    | some u =>
      rw [run_wait_of_some hs] at h
      rw [ih hp h, hwait w u (World.passes_of_sleep hs)]
  | never | abort => exact (Prod.mk.inj h).2 ▸ rfl

end Activity

end QueueClient
