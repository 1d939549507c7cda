/-
# Runs without waits

An activity that comes to its result by acts alone (`Activity.Straight`) takes no time, and nothing
can come in between: neither a timer nor a context that it gives way to makes a difference
(`Straight.timeoutAt`, `Straight.untilDone`).  The acts are kept in a list, and what none of them
changes is at the end as it was.
-/
import QueueClient.Proofs.Activity.Seen

namespace QueueClient.Activity

variable {α β γ : Type} {w u v : World} {p : Activity α} {f : α → Activity β} {a : α} {b : β}
  {as bs : List Act}

/-- The activity comes to a result by these acts, without a wait. -/
inductive Straight : Activity α → World → List Act → α → World → Prop
  /-- It is over. -/
  | done (a : α) (w : World) : Straight (done a) w [] a w
  /-- It acts and goes on. -/
  | act {d : Act} {k : d.Answer → Activity α} {w v : World} {as : List Act} {a : α} :
    Straight (k (w.perform d).1) (w.perform d).2 as a v → Straight (act d k) w (d :: as) a v

namespace Straight

/-- An act whose answer is known. -/
lemma of_perform {d : Act} {k : d.Answer → Activity α} {x : d.Answer} (hx : w.perform d = (x, u))
    (h : (k x).Straight u as a v) : (Activity.act d k).Straight w (d :: as) a v := by
  refine .act ?_
  rw [hx]
  exact h

lemma bind (h : p.Straight w as a u) (h' : (f a).Straight u bs b v) :
    (p.bind f).Straight w (as ++ bs) b v := by
  induction h with
  | done a w => exact h'
  | act _ ih => exact .act (ih h')

lemma run_eq (h : p.Straight w as a v) : p.run w = (some a, v) := by
  induction h with
  | done a w => rfl
  | act _ ih => rw [run_act, ih]

/-- The events are the acts. -/
lemma of_mem_trace (h : p.Straight w as a v) {e : Event} (he : e ∈ p.trace w) :
    ∃ d ∈ as, ∃ u, e = .acts d u := by
  induction h with
  | done a w => cases he
  | act _ ih =>
    rw [trace_act, List.mem_cons] at he
    rcases he with rfl | he
    · exact ⟨_, List.mem_cons_self, _, rfl⟩
    · obtain ⟨d, hd, hu⟩ := ih he
      exact ⟨d, List.mem_cons_of_mem _ hd, hu⟩

/-- What can be seen of the acts themselves is seen of the run. -/
lemma seen_eq (h : p.Straight w as a v) {f : Event → List γ} {g : Act → List γ}
    (hfg : ∀ d u, f (.acts d u) = g d) : p.seen f w = as.flatMap g := by
  induction h with
  | done a w => rfl
  | act _ ih => rw [seen_act, ih, hfg, List.flatMap_cons]

/-- What no act changes is as it was. -/
lemma kept {x : World → γ} (h : p.Straight w as a v)
    (hact : ∀ d ∈ as, ∀ u, x (u.perform d).2 = x u) : x v = x w := by
  induction h with
  | done a w => rfl
  | act _ ih =>
    rw [ih fun d hd => hact d (List.mem_cons_of_mem _ hd)]
    exact hact _ List.mem_cons_self _

lemma now_eq (h : p.Straight w as a v) : v.now = w.now :=
  h.kept fun d _ u => u.perform_now d

/-! ## Giving way -/

lemma timeoutAt (h : p.Straight w as a v) (t : ℕ) :
    (p.timeoutAt t).Straight w as (some a) v := by
  induction h with
  | done a w => exact .done _ _
  | act _ ih => exact .act ih

lemma watch (h : p.Straight w as a v) (c : Context) :
    (p.watch c).Straight w as (.ok a) v := by
  induction h with
  | done a w => exact .done _ _
  | act _ ih => exact .act ih

/-- A context that is not done before is not looked at again. -/
lemma untilDone {c : Context} (h : p.Straight w as a v) (hc : c.reasonIn w = none) :
    (p.untilDone c).Straight w (.firstDue c.endings :: as) (.ok a) v := by
  have hperform : w.perform (.firstDue c.endings) = (none, w) := by
    rw [World.perform_endings, hc]
  exact .of_perform hperform (h.watch c)

end Straight

end QueueClient.Activity
