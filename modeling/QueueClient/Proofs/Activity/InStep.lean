/-
# Two activities in step

Two activities go in step if they are the same tree of acts and waits, but for the requests that the
acts are about and for what they come to at the end, which a relation says (`Activity.InStep`).  A
request may be another one where the answer to the act does not tell it from the first: it may be
copied or have its payload taken if its body is the same, and it may arrive at the last stage as it
is, as all that can be asked about arrivals is how many there were.

Activities in step stay so when they give way to a context or an instant (`InStep.untilDone`,
`InStep.timeoutAt`), and so do sequences of them (`InStep.bind`).  What it means for their runs is
`InStep.run`: in the same world they come to results in the relation, or both to none, and in the
end the worlds differ in the arrivals only.  In particular the same is written (`InStep.written`).
-/
import QueueClient.Proofs.Activity.Entries

namespace QueueClient

/-! ## Worlds that differ in the arrivals -/

/-- The worlds differ at most in the requests that have reached the last stage, and not in how many
these are. -/
structure World.SameButArrivals (w w' : World) : Prop where
  rest : w' = { w with arrivals := w'.arrivals }
  length : w'.arrivals.length = w.arrivals.length

namespace World.SameButArrivals

variable {w w' : World}

lemma refl (w : World) : w.SameButArrivals w := ⟨rfl, rfl⟩

lemma records (h : w.SameButArrivals w') : w'.records = w.records := by rw [h.rest]

/-- No answer tells them apart, and no act makes another difference. -/
lemma perform (h : w.SameButArrivals w') (a : Act) :
    (w'.perform a).1 = (w.perform a).1 ∧ (w.perform a).2.SameButArrivals (w'.perform a).2 := by
  obtain ⟨hrest, hlength⟩ := h
  generalize w'.arrivals = arrivals at hrest hlength
  subst hrest
  cases a with
  | arrive c r =>
    refine ⟨hlength, rfl, ?_⟩
    show (arrivals ++ _).length = (w.arrivals ++ _).length
    rw [List.length_append, List.length_append, hlength]
  | _ => exact ⟨rfl, rfl, hlength⟩

/-- The note of a call may be about another request. -/
lemma arrive (h : w.SameButArrivals w') (c : Context) (r r' : Request) :
    (w'.perform (.arrive c r')).1 = (w.perform (.arrive c r)).1 ∧
      (w.perform (.arrive c r)).2.SameButArrivals (w'.perform (.arrive c r')).2 := by
  obtain ⟨hanswer, hworld⟩ := h.perform (.arrive c r')
  refine ⟨hanswer, hworld.rest, hworld.length.trans ?_⟩
  show (w.arrivals ++ _).length = (w.arrivals ++ _).length
  rw [List.length_append, List.length_append]
  rfl

lemma outsideWaits_arrivals (arrivals : List Arrival) :
    OutsideWaits fun w => { w with arrivals } :=
  fun _ _ _ _ => rfl

/-- A wait ends in both or in none. -/
lemma sleep (h : w.SameButArrivals w') (wake : Wake) :
    Option.Rel SameButArrivals (w.sleep wake) (w'.sleep wake) := by
  obtain ⟨hrest, hlength⟩ := h
  generalize w'.arrivals = arrivals at hrest hlength
  subst hrest
  have hsleep := (outsideWaits_arrivals arrivals).sleep wake w
  rw [hsleep]
  cases hs : w.sleep wake with
  | none => exact .none
  | some v =>
    have hv : v.arrivals = w.arrivals := by rw [(passes_of_sleep hs).rest]
    refine .some ⟨rfl, ?_⟩
    rw [hv]
    exact hlength

end World.SameButArrivals

/-! ## Activities in step -/

/-- Both go on, with values in a relation, or both end for the same reason. -/
inductive BothOrNeither {ε α β : Type} (R : α → β → Prop) : Except ε α → Except ε β → Prop where
  | ok {a : α} {b : β} (h : R a b) : BothOrNeither R (.ok a) (.ok b)
  | error (e : ε) : BothOrNeither R (.error e) (.error e)

namespace Activity

variable {α β γ δ : Type} {R : α → β → Prop} {S : γ → δ → Prop} {p : Activity α} {q : Activity β}

/-- The activities differ in nothing but requests that cannot be told apart, and come to what a
relation says. -/
inductive InStep (R : α → β → Prop) : Activity α → Activity β → Prop where
  | done {a : α} {b : β} (h : R a b) : InStep R (done a) (done b)
  | act (a : Act) {k : a.Answer → Activity α} {l : a.Answer → Activity β}
    (h : ∀ x, InStep R (k x) (l x)) : InStep R (act a k) (act a l)
  /-- They get copies of requests with the same body. -/
  | rewind {r r' : Request} (hbody : r'.body = r.body) (n : ℕ)
    {k : Except Error Request → Activity α} {l : Except Error Request → Activity β}
    (copy : InStep R (k (.ok r)) (l (.ok r')))
    (fault : ∀ e, InStep R (k (.error e)) (l (.error e))) :
    InStep R (act (.rewind r n) k) (act (.rewind r' n) l)
  /-- They take the payloads of requests with the same body. -/
  | payload {r r' : Request} (hbody : r'.body = r.body) (n : ℕ)
    {k : Except Error (Option Payload) → Activity α}
    {l : Except Error (Option Payload) → Activity β} (h : ∀ x, InStep R (k x) (l x)) :
    InStep R (act (.payload r n) k) (act (.payload r' n) l)
  /-- Their requests arrive. -/
  | arrive (c : Context) (r r' : Request) {k : ℕ → Activity α} {l : ℕ → Activity β}
    (h : ∀ n, InStep R (k n) (l n)) : InStep R (act (.arrive c r) k) (act (.arrive c r') l)
  | wait (wake : Wake) {k : Activity α} {l : Activity β} (h : InStep R k l) :
    InStep R (wait wake k) (wait wake l)
  | never : InStep R never never
  | abort : InStep R abort abort

namespace InStep

/-- Every activity goes in step with itself. -/
lemma refl {R : α → α → Prop} (hR : ∀ a, R a a) (p : Activity α) : InStep R p p := by
  induction p with
  | done a => exact .done (hR a)
  | act a k ih => exact .act a ih
  | wait wake k ih => exact .wait wake ih
  | never => exact .never
  | abort => exact .abort

lemma bind (h : InStep R p q) {f : α → Activity γ} {g : β → Activity δ}
    (hfg : ∀ a b, R a b → InStep S (f a) (g b)) : InStep S (p.bind f) (q.bind g) := by
  induction h with
  | done h => exact hfg _ _ h
  | act a _ ih => exact .act a ih
  | rewind hbody n _ _ ihcopy ihfault => exact .rewind hbody n ihcopy ihfault
  | payload hbody n _ ih => exact .payload hbody n ih
  | arrive c r r' _ ih => exact .arrive c r r' ih
  | wait wake _ ih => exact .wait wake ih
  | never => exact .never
  | abort => exact .abort

/-- Something that is done in both. -/
lemma bind_left {ε : Type} {p : Activity ε} {f : ε → Activity α} {g : ε → Activity β}
    (h : ∀ a, InStep R (f a) (g a)) : InStep R (p.bind f) (p.bind g) :=
  (refl (R := Eq) (fun _ => rfl) p).bind fun a _ hab => hab ▸ h a

lemma watch (c : Context) (h : InStep R p q) :
    InStep (BothOrNeither R) (p.watch c) (q.watch c) := by
  -- a context that is done ends both
  have hgone : ∀ reason, InStep (BothOrNeither R)
      (.done (.error reason) : Activity (Except CancelReason α)) (.done (.error reason)) :=
    fun reason => .done (.error reason)
  induction h with
  | done h => exact .done (.ok h)
  | act a _ ih => exact .act a ih
  | rewind hbody n _ _ ihcopy ihfault => exact .rewind hbody n ihcopy ihfault
  | payload hbody n _ ih => exact .payload hbody n ih
  | arrive c r r' _ ih => exact .arrive c r r' ih
  | wait wake _ ih =>
    refine .act (.firstDue c.endings) ?_
    rintro (_ | reason)
    · refine .wait _ (.act (.firstDue c.endings) ?_)
      rintro (_ | reason)
      · exact ih
      · exact hgone reason
    · exact hgone reason
  | never =>
    refine .act (.firstDue c.endings) ?_
    rintro (_ | reason)
    · refine .wait _ (.act (.firstDue c.endings) ?_)
      rintro (_ | reason)
      · exact .never
      · exact hgone reason
    · exact hgone reason
  | abort => exact .abort

lemma untilDone (c : Context) (h : InStep R p q) :
    InStep (BothOrNeither R) (p.untilDone c) (q.untilDone c) := by
  refine .act (.firstDue c.endings) ?_
  rintro (_ | reason)
  · exact h.watch c
  · exact .done (.error reason)

lemma timeoutAt (t : ℕ) (h : InStep R p q) :
    InStep (Option.Rel R) (p.timeoutAt t) (q.timeoutAt t) := by
  induction h with
  | done h => exact .done (.some h)
  | act a _ ih => exact .act a ih
  | rewind hbody n _ _ ihcopy ihfault => exact .rewind hbody n ihcopy ihfault
  | payload hbody n _ ih => exact .payload hbody n ih
  | arrive c r r' _ ih => exact .arrive c r r' ih
  | wait wake _ ih =>
    refine .act (.isDue (.ofTimer t)) ?_
    rintro (_ | _)
    · refine .wait _ (.act (.isDue wake) ?_)
      rintro (_ | _)
      · exact .done .none
      · exact ih
    · exact .done .none
  | never =>
    refine .act (.isDue (.ofTimer t)) ?_
    rintro (_ | _)
    · exact .wait _ (.done .none)
    · exact .done .none
  | abort => exact .abort

/-- **Runs of activities in step** come to results in the relation, in worlds that differ in the
arrivals only. -/
theorem run (h : InStep R p q) {w w' : World} (hw : w.SameButArrivals w') :
    Option.Rel R (p.run w).1 (q.run w').1 ∧ (p.run w).2.SameButArrivals (q.run w').2 := by
  induction h generalizing w w' with
  | done h => exact ⟨.some h, hw⟩
  | act a _ ih =>
    obtain ⟨hanswer, hnext⟩ := hw.perform a
    rw [run_act, run_act, hanswer]
    exact ih _ hnext
  | @rewind r r' hbody n k l _ _ ihcopy ihfault =>
    have hstreams : w'.streams = w.streams := by rw [hw.rest]
    have hanswer : (w.perform (.rewind r n)).1 = r.rewind w.streams n := rfl
    have hanswer' : (w'.perform (.rewind r' n)).1 = r'.rewind w.streams n := by
      rw [← hstreams]
      rfl
    rw [run_act, run_act, hanswer, hanswer', Request.rewind, Request.rewind, hbody]
    split
    · exact ihcopy hw
    · exact ihfault _ hw
  | @payload r r' hbody n k l _ ih =>
    have hsame : w'.perform (.payload r' n) = w'.perform (.payload r n) := by
      simp only [World.perform, Request.payload, hbody]
    obtain ⟨hanswer, hnext⟩ := hw.perform (.payload r n)
    rw [run_act, run_act, hsame, hanswer]
    exact ih _ hnext
  | arrive c r r' _ ih =>
    obtain ⟨hanswer, hnext⟩ := hw.arrive c r r'
    rw [run_act, run_act, hanswer]
    exact ih _ hnext
  | wait wake _ ih =>
    have hsleep := hw.sleep wake
    generalize hs : w.sleep wake = u at hsleep
    generalize hs' : w'.sleep wake = u' at hsleep
    cases hsleep with
    | none =>
      rw [run_wait_of_none hs, run_wait_of_none hs']
      exact ⟨.none, hw⟩
    | some hnext =>
      rw [run_wait_of_some hs, run_wait_of_some hs']
      exact ih hnext
  | never | abort => exact ⟨.none, hw⟩

/-- The same is written. -/
lemma written (h : InStep R p q) (w : World) : q.written w = p.written w := by
  obtain ⟨-, hend⟩ := h.run (.refl w)
  have hrecords : (q.run w).2.records = (p.run w).2.records := hend.records
  rw [records_run (p := p) rfl, records_run (p := q) rfl] at hrecords
  exact List.append_cancel_left hrecords

end InStep

end Activity

end QueueClient
