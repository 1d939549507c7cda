/-
# Safe activities

`p.Safe A Q w` says that `p`, run from the world `w`, performs acts only in worlds in which `A`
allows them, and that `Q` holds of its result and its last world.  A wait may end in any world
that waiting can lead to (`World.Passes`), so what is safe stays safe when something else may end
its waits, or end the whole activity at one of them: safety goes through `watch` and `timeoutAt`
(`Safe.watch`, `Safe.timeoutAt`).  Runs and traces of safe activities are what they should be
(`Safe.result`, `Safe.mem_trace`).
-/
import QueueClient.Proofs.Activity.Runs

namespace QueueClient

namespace Context

variable {c : Context} {w v : World} {f : TokenForest} {now : ℕ}

lemma reason?_eq_none_iff :
    c.reason? f now = none ↔ f.isCancelled c.token = false ∧ c.isOverdue now = false := by
  unfold reason?
  by_cases ht : f.isCancelled c.token = true
  · simp [ht]
  · by_cases hd : c.isOverdue now = true <;> simp [ht, hd]

lemma isOverdue_eq_false_iff :
    c.isOverdue now = false ↔ ∀ d, c.deadline = some d → now < d := by
  unfold isOverdue
  cases c.deadline <;> simp

lemma reason?_eq_cancelled_iff :
    c.reason? f now = some .cancelled ↔ f.isCancelled c.token = true := by
  unfold reason?
  by_cases ht : f.isCancelled c.token = true
  · simp [ht]
  · by_cases hd : c.isOverdue now = true <;> simp [ht, hd]

/-- A context whose token is the token of another one or below it, and whose deadline is no later,
is done once that one is. -/
lemma isSome_reason?_of_le {a : Context} {f' : TokenForest} {now' : ℕ}
    (hpath : a.token.path <:+ c.token.path)
    (hdeadline : ∀ d', a.deadline = some d' → ∃ d ≤ d', c.deadline = some d)
    (hmarked : f.marked <:+ f'.marked) (hnow : now ≤ now') (ha : (a.reason? f now).isSome) :
    (c.reason? f' now').isSome := by
  by_contra hc
  rw [Option.not_isSome_iff_eq_none, reason?_eq_none_iff, isOverdue_eq_false_iff] at hc
  obtain ⟨hlive, hearly⟩ := hc
  have hnone : a.reason? f now = none := by
    rw [reason?_eq_none_iff, isOverdue_eq_false_iff]
    refine ⟨Bool.eq_false_iff.mpr fun ht => ?_, fun d' hd' => ?_⟩
    · obtain ⟨t, ht, hsuffix⟩ := TokenForest.isCancelled_iff.mp ht
      exact Bool.eq_false_iff.mp hlive
        (TokenForest.isCancelled_iff.mpr ⟨t, hmarked.subset ht, hsuffix.trans hpath⟩)
    · obtain ⟨d, hle, hd⟩ := hdeadline d' hd'
      have := hearly d hd
      omega
  rw [hnone] at ha
  exact nomatch ha

/-- What is done stays done. -/
lemma isSome_reason?_mono {f' : TokenForest} {now' : ℕ} (hmarked : f.marked <:+ f'.marked)
    (hnow : now ≤ now') (hc : (c.reason? f now).isSome) : (c.reason? f' now').isSome :=
  isSome_reason?_of_le (List.suffix_refl _) (fun d hd => ⟨d, le_refl _, hd⟩) hmarked hnow hc

lemma isSome_reasonIn_of_later (h : w.Later v) (hw : (c.reasonIn w).isSome) :
    (c.reasonIn v).isSome :=
  isSome_reason?_mono h.marked h.now_le hw

lemma not_isOverdue_of_reasonIn (h : c.reasonIn w = none) : c.isOverdue w.now = false :=
  (reason?_eq_none_iff.mp h).2

end Context

namespace Activity

variable {α β : Type} {A B : Act → World → Prop} {Q R : α → World → Prop} {w v : World}

/-- The activity performs only allowed acts and comes to a result as it should. -/
def Safe (A : Act → World → Prop) (Q : α → World → Prop) : Activity α → World → Prop
  | done a, w => Q a w
  | act a k, w => A a w ∧ (k (w.perform a).1).Safe A Q (w.perform a).2
  | wait _ k, w => ∀ v, w.Passes v → k.Safe A Q v
  | never, _ => True
  | abort, _ => True

namespace Safe

lemma mono {p : Activity α} (h : p.Safe A Q w) (hA : ∀ a v, A a v → B a v)
    (hQ : ∀ a v, Q a v → R a v) : p.Safe B R w := by
  induction p generalizing w with
  | done a => exact hQ a w h
  | act a k ih => exact ⟨hA a w h.1, ih _ h.2⟩
  | wait wake k ih => exact fun v hv => ih (h v hv)
  | never | abort => trivial

lemma bind {S : β → World → Prop} {p : Activity α} {f : α → Activity β} (h : p.Safe A Q w)
    (hf : ∀ a v, Q a v → (f a).Safe A S v) : (p.bind f).Safe A S w := by
  induction p generalizing w with
  | done a => exact hf a w h
  | act a k ih => exact ⟨h.1, ih _ h.2⟩
  | wait wake k ih => exact fun v hv => ih (h v hv)
  | never | abort => trivial

/-- Where everything is allowed, everything is safe. -/
lemma of_true (p : Activity α) (w : World) : p.Safe (fun _ _ => True) (fun _ _ => True) w := by
  induction p generalizing w with
  | done a => trivial
  | act a k ih => exact ⟨trivial, ih _ _⟩
  | wait wake k ih => exact fun v _ => ih v
  | never | abort => trivial

/-- Acts that are always allowed make an activity safe. -/
lemma of_all {p : Activity α} (h : p.All fun a => ∀ v, A a v) (w : World) :
    p.Safe A (fun _ _ => True) w := by
  induction p generalizing w with
  | done a => trivial
  | act a k ih => exact ⟨h.1 w, ih _ (h.2 _) _⟩
  | wait wake k ih => exact fun v _ => ih h v
  | never | abort => trivial

lemma result {p : Activity α} {a : α} (h : p.Safe A Q w) (hrun : p.run w = (some a, v)) :
    Q a v := by
  induction p generalizing w with
  | done b =>
    rw [run_done, Prod.mk.injEq, Option.some.injEq] at hrun
    rw [← hrun.1, ← hrun.2]
    exact h
  | act b k ih => exact ih _ h.2 hrun
  | wait wake k ih =>
    cases hs : w.sleep wake with
    | none =>
      rw [run_wait_of_none hs] at hrun
      exact absurd (congrArg Prod.fst hrun) (by simp)
    | some u =>
      rw [run_wait_of_some hs] at hrun
      exact ih (h u (World.passes_of_sleep hs)) hrun
  | never | abort => exact absurd (congrArg Prod.fst hrun) (by simp)

lemma mem_trace {p : Activity α} {a : Act} (h : p.Safe A Q w)
    (ha : .acts a v ∈ p.trace w) : A a v := by
  induction p generalizing w with
  | done b => simp at ha
  | act b k ih =>
    rw [trace_act, List.mem_cons] at ha
    rcases ha with ha | ha
    · injection ha with ha hv
      subst ha hv
      exact h.1
    · exact ih _ h.2 ha
  | wait wake k ih =>
    rcases mem_trace_wait.mp ha with ⟨u, -, hu⟩ | ⟨u, hs, ha⟩
    · exact absurd hu (by simp)
    · exact ih (h u (World.passes_of_sleep hs)) ha
  | never | abort => simp [trace] at ha

end Safe

/-! ## Giving way -/

/-- What is known when an activity is over that gives way to a context: if it came to an end by
itself, the context is not overdue, and if it did not, the context is done. -/
def Watched (c : Context) (Q : α → World → Prop) : Except CancelReason α → World → Prop
  | .ok a, v => Q a v ∧ c.isOverdue v.now = false
  | .error r, v => c.reasonIn v = some r

namespace Safe

variable {c : Context}

/-- Whoever waits for a context goes on as the context is. -/
lemma firstDue {f : Option CancelReason → Activity α} (hA : A (.firstDue c.endings) w)
    (hf : (f (c.reasonIn w)).Safe A Q w) : (act (.firstDue c.endings) f).Safe A Q w := by
  refine ⟨hA, ?_⟩
  rw [World.perform_endings]
  exact hf

lemma watch (hA : ∀ v, A (.firstDue c.endings) v) {p : Activity α} (h : p.Safe A Q w)
    (hw : c.isOverdue w.now = false) : (p.watch c).Safe A (Watched c Q) w := by
  induction p generalizing w with
  | done a => exact ⟨h, hw⟩
  | act a k ih => exact ⟨h.1, ih _ h.2 (by rwa [World.perform_now])⟩
  | wait wake k ih =>
    refine firstDue (hA w) ?_
    cases hr : c.reasonIn w with
    | some r => exact hr
    | none =>
      refine fun v hv => firstDue (hA v) ?_
      cases hr' : c.reasonIn v with
      | some r => exact hr'
      | none => exact ih (h v hv) (Context.not_isOverdue_of_reasonIn hr')
  | never =>
    refine firstDue (hA w) ?_
    cases hr : c.reasonIn w with
    | some r => exact hr
    | none =>
      refine fun v hv => firstDue (hA v) ?_
      cases hr' : c.reasonIn v with
      | some r => exact hr'
      | none => trivial
  | abort => trivial

lemma untilDone (hA : ∀ v, A (.firstDue c.endings) v) {p : Activity α}
    (h : c.reasonIn w = none → p.Safe A Q w) : (p.untilDone c).Safe A (Watched c Q) w := by
  refine firstDue (hA w) ?_
  cases hr : c.reasonIn w with
  | some r => exact hr
  | none => exact watch hA (h hr) (Context.not_isOverdue_of_reasonIn hr)

lemma timeoutAt {t : ℕ} (hA : ∀ wake v, A (.isDue wake) v) {p : Activity α}
    (h : p.Safe A Q w) : (p.timeoutAt t).Safe A (fun x v => ∀ a, x = some a → Q a v) w := by
  induction p generalizing w with
  | done a => exact fun b hb => Option.some.inj hb ▸ h
  | act a k ih => exact ⟨h.1, ih _ h.2⟩
  | wait wake k ih =>
    refine ⟨hA _ w, ?_⟩
    cases hlate : (w.perform (.isDue (.ofTimer t))).1 with
    | true => exact fun b hb => absurd hb (by simp)
    | false =>
      refine fun v hv => ⟨hA _ v, ?_⟩
      cases hready : (v.perform (.isDue wake)).1 with
      | true => exact ih (h v hv)
      | false => exact fun b hb => absurd hb (by simp)
  | never =>
    refine ⟨hA _ w, ?_⟩
    cases hlate : (w.perform (.isDue (.ofTimer t))).1 with
    | true => exact fun b hb => absurd hb (by simp)
    | false => exact fun v _ b hb => absurd hb (by simp)
  | abort => trivial

end Safe

end Activity

end QueueClient
