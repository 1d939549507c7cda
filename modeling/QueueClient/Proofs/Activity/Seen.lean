/-
# What is seen of a run

A view says what is to be seen of an event, and what is seen of a run is what is seen of its
events, in order (`Activity.seen`).  The calls of a stage are seen that way, and so are the entries
in a log.  A view that overlooks waits and all acts of some kind sees nothing of an activity that
performs no others (`All.seen_eq_nil`), and what it sees of a sequence is what it sees of its parts
(`seen_bind`).
-/
import QueueClient.Proofs.Activity.GivingWay

namespace QueueClient

/-- The act neither takes a payload nor notes a call nor writes to the log. -/
def Act.IsRoutine : Act → Prop
  | .payload _ _ | .arrive _ _ | .record _ => False
  | _ => True

namespace Activity

variable {α β γ : Type} {f : Event → List γ} {P : Act → Prop} {p : Activity α} {w v : World}

/-! ## Acts of some kind -/

namespace All

/-- Giving way to a context takes looks at the context only. -/
lemma watch {c : Context} (hP : P (.firstDue c.endings)) (h : p.All P) : (p.watch c).All P := by
  induction p with
  | done a => trivial
  | act a k ih => exact ⟨h.1, fun x => ih x (h.2 x)⟩
  | wait wake k ih =>
    refine ⟨hP, ?_⟩
    rintro (_ | r)
    · refine ⟨hP, ?_⟩
      rintro (_ | r)
      · exact ih h
      · trivial
    · trivial
  | never =>
    refine ⟨hP, ?_⟩
    rintro (_ | r)
    · refine ⟨hP, ?_⟩
      rintro (_ | r) <;> trivial
    · trivial
  | abort => trivial

lemma untilDone {c : Context} (hP : P (.firstDue c.endings)) (h : p.All P) :
    (p.untilDone c).All P := by
  refine ⟨hP, ?_⟩
  rintro (_ | r)
  · exact watch hP h
  · trivial

/-- Giving way to a timer takes looks at the clock only. -/
lemma timeoutAt {t : ℕ} (hP : ∀ wake, P (.isDue wake)) (h : p.All P) : (p.timeoutAt t).All P := by
  induction p with
  | done a => trivial
  | act a k ih => exact ⟨h.1, fun x => ih x (h.2 x)⟩
  | wait wake k ih =>
    refine ⟨hP _, ?_⟩
    rintro (_ | _)
    · refine ⟨hP _, ?_⟩
      rintro (_ | _)
      · trivial
      · exact ih h
    · trivial
  | never =>
    refine ⟨hP _, ?_⟩
    rintro (_ | _) <;> trivial
  | abort => trivial

lemma within {t : ℕ} {c : Context} (hdue : ∀ wake, P (.isDue wake)) (hc : P (.firstDue c.endings))
    (h : p.All P) : (p.within t c).All P :=
  watch hc (timeoutAt hdue h)

lemma expect (a? : Option α) : (Activity.expect a?).All P := by
  cases a? <;> trivial

lemma wakeUp (hnow : P .now) (d : Duration) : (Activity.wakeUp d).All P :=
  ⟨hnow, fun now => expect (Instant.wakeUp? now d)⟩

lemma sleepUntil (hdue : ∀ wake, P (.isDue wake)) (t : ℕ) : (Activity.sleepUntil t).All P := by
  refine ⟨hdue _, ?_⟩
  rintro (_ | _) <;> trivial

end All

/-! ## Views -/

/-- What is seen of a run. -/
def seen (f : Event → List γ) (p : Activity α) (w : World) : List γ := (p.trace w).flatMap f

/-- The view shows neither waits nor acts of the kind. -/
structure Overlooks (f : Event → List γ) (P : Act → Prop) : Prop where
  waits : ∀ w, f (.waits w) = []
  acts : ∀ a w, P a → f (.acts a w) = []

lemma Overlooks.mono {Q : Act → Prop} (hf : Overlooks f P) (h : ∀ a, Q a → P a) :
    Overlooks f Q :=
  ⟨hf.waits, fun a w ha => hf.acts a w (h a ha)⟩

@[simp] lemma seen_done (f : Event → List γ) (a : α) (w : World) : (done a).seen f w = [] := rfl

lemma seen_act (f : Event → List γ) (a : Act) (k : a.Answer → Activity α) (w : World) :
    (act a k).seen f w = f (.acts a w) ++ (k (w.perform a).1).seen f (w.perform a).2 := by
  rw [seen, trace_act, List.flatMap_cons, seen]

/-- An act that is overlooked. -/
lemma Overlooks.seen_act (hf : Overlooks f P) {a : Act} (ha : P a) (k : a.Answer → Activity α)
    (w : World) : (act a k).seen f w = (k (w.perform a).1).seen f (w.perform a).2 := by
  rw [Activity.seen_act, hf.acts a w ha, List.nil_append]

lemma seen_bind {a : α} (h : p.run w = (some a, v)) (f : Event → List γ) (g : α → Activity β) :
    (p.bind g).seen f w = p.seen f w ++ (g a).seen f v := by
  rw [seen, trace_bind_of_some h, List.flatMap_append, seen, seen]

lemma seen_bind_of_none (h : p.run w = (none, v)) (f : Event → List γ) (g : α → Activity β) :
    (p.bind g).seen f w = p.seen f w := by
  rw [seen, trace_bind_of_none h, seen]

lemma flatMap_pause_eq_nil (hf : ∀ w, f (.waits w) = []) (wake : Wake) (w : World) :
    ((w.pause wake).map Event.waits).flatMap f = [] := by
  rw [List.flatMap_eq_nil_iff]
  intro e he
  obtain ⟨u, -, rfl⟩ := List.mem_map.mp he
  exact hf u

lemma seen_wait_of_some {wake : Wake} (hf : ∀ w, f (.waits w) = []) (h : w.sleep wake = some v)
    (k : Activity α) : (wait wake k).seen f w = k.seen f v := by
  rw [seen, trace_wait_of_some h, List.flatMap_append, flatMap_pause_eq_nil hf, List.nil_append,
    seen]

lemma seen_wait_of_none {wake : Wake} (hf : ∀ w, f (.waits w) = []) (h : w.sleep wake = none)
    (k : Activity α) : (wait wake k).seen f w = [] := by
  rw [seen, trace_wait_of_none h, flatMap_pause_eq_nil hf]

/-- Where nothing but overlooked acts can be performed, nothing is seen. -/
lemma All.seen_eq_nil (hp : p.All P) (hf : Overlooks f P) (w : World) : p.seen f w = [] := by
  induction p generalizing w with
  | done a => rfl
  | act a k ih =>
    rw [hf.seen_act hp.1]
    exact ih _ (hp.2 _) _
  | wait wake k ih =>
    cases hs : w.sleep wake with
    | none => exact seen_wait_of_none hf.waits hs k
    | some u =>
      rw [seen_wait_of_some hf.waits hs]
      exact ih hp u
  | never => rw [seen, trace, List.flatMap_singleton, hf.waits]
  | abort => rfl

end Activity

end QueueClient
