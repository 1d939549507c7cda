/-
# Giving way, exactly

Three things are to be known about a run that something else may end.

* If all its waits have timers (`Activity.Timed`), it comes to an end, unless it breaks off.  Under
  `timeoutAt` every wait has one.
* If it was not ended by something else, its result is what the activity comes to by itself
  (`cutOff_of_run_timeoutAt`, `run_of_run_watch`); if a timer ended it, the activity by itself has
  not come to anything before (`CutOff`).
* If it was ended by a context, this happened at once: in the first world of all that the run
  waits in in which the context is done (`GivesWay`).
-/
import QueueClient.Proofs.Activity.Safety

namespace QueueClient

namespace Activity

variable {α β : Type} {c : Context} {w v : World}

/-! ## Sequences that give way

Whoever gives way in the first part of a sequence does not come to the second; otherwise the second
gives way by itself. -/

lemma timeoutAt_bind (t : ℕ) (p : Activity α) (f : α → Activity β) :
    (p.bind f).timeoutAt t = (p.timeoutAt t).bind fun
      | some a => (f a).timeoutAt t
      | none => done none := by
  induction p with
  | done a => rfl
  | act a k ih => exact congrArg (act a) (funext ih)
  | wait wake k ih =>
    simp only [bind_wait, timeoutAt, bind_act]
    refine congrArg (act _) (funext fun late => ?_)
    cases late with
    | true => rfl
    | false =>
      simp only [Bool.false_eq_true, if_false, bind_wait, bind_act]
      refine congrArg (wait _) (congrArg (act _) (funext fun ready => ?_))
      cases ready with
      | true => exact ih
      | false => rfl
  | never =>
    simp only [bind_never, timeoutAt, bind_act]
    refine congrArg (act _) (funext fun late => ?_)
    cases late <;> rfl
  | abort => rfl

lemma watch_bind (c : Context) (p : Activity α) (f : α → Activity β) :
    (p.bind f).watch c = (p.watch c).bind fun
      | .ok a => (f a).watch c
      | .error r => done (.error r) := by
  induction p with
  | done a => rfl
  | act a k ih => exact congrArg (act a) (funext ih)
  | wait wake k ih =>
    simp only [bind_wait, watch, bind_act]
    refine congrArg (act _) (funext fun r => ?_)
    cases r with
    | some r => rfl
    | none =>
      simp only [bind_wait, bind_act]
      refine congrArg (wait _) (congrArg (act _) (funext fun r => ?_))
      cases r with
      | some r => rfl
      | none => exact ih
  | never =>
    simp only [bind_never, watch, bind_act]
    refine congrArg (act _) (funext fun r => ?_)
    cases r with
    | some r => rfl
    | none =>
      simp only [bind_wait, bind_act]
      refine congrArg (wait _) (congrArg (act _) (funext fun r => ?_))
      cases r <;> rfl
  | abort => rfl

/-- The activity until an instant has come or a context is done. -/
def within (t : ℕ) (c : Context) (p : Activity α) : Activity (Except CancelReason (Option α)) :=
  (p.timeoutAt t).watch c

/-- What is done after an activity that has come to something in time. -/
def carryOn (f : α → Activity (Except CancelReason (Option β))) :
    Except CancelReason (Option α) → Activity (Except CancelReason (Option β))
  | .ok (some a) => f a
  | .ok none => done (.ok none)
  | .error r => done (.error r)

lemma within_bind (t : ℕ) (c : Context) (p : Activity α) (f : α → Activity β) :
    (p.bind f).within t c = (p.within t c).bind (carryOn fun a => (f a).within t c) := by
  rw [within, timeoutAt_bind, watch_bind, within]
  refine congrArg (bind _) (funext fun x => ?_)
  rcases x with r | _ | a <;> rfl

/-! ## Runs that end -/

/-- All waits have timers. -/
def Timed : Activity α → Prop
  | done _ => True
  | act _ k => ∀ x, (k x).Timed
  | wait wake k => wake.timer ≠ none ∧ k.Timed
  | never => False
  | abort => True

namespace Timed

lemma bind {p : Activity α} {f : α → Activity β} (hp : p.Timed) (hf : ∀ a, (f a).Timed) :
    (p.bind f).Timed := by
  induction p with
  | done a => exact hf a
  | act a k ih => exact fun x => ih x (hp x)
  | wait wake k ih => exact ⟨hp.1, ih hp.2⟩
  | never | abort => exact hp

lemma watch (c : Context) {p : Activity α} (hp : p.Timed) : (p.watch c).Timed := by
  induction p with
  | done a => trivial
  | act a k ih => exact fun x => ih x (hp x)
  | wait wake k ih =>
    rintro (_ | r)
    · refine ⟨fun h => hp.1 (Wake.earlier_eq_none h), ?_⟩
      rintro (_ | r)
      · exact ih hp.2
      · trivial
    · trivial
  | never => exact absurd hp id
  | abort => trivial

lemma untilDone (c : Context) {p : Activity α} (hp : p.Timed) : (p.untilDone c).Timed := by
  rintro (_ | r)
  · exact watch c hp
  · trivial

lemma timeoutAt (t : ℕ) (p : Activity α) : (p.timeoutAt t).Timed := by
  induction p with
  | done a => trivial
  | act a k ih => exact fun x => ih x
  | wait wake k ih =>
    rintro (_ | _)
    · refine ⟨Wake.earlier_some_ne_none wake.timer t, ?_⟩
      rintro (_ | _)
      · trivial
      · exact ih
    · trivial
  | never =>
    rintro (_ | _)
    · exact ⟨by simp [Wake.ofTimer], trivial⟩
    · trivial
  | abort => trivial

lemma within (t : ℕ) (c : Context) (p : Activity α) : (p.within t c).Timed :=
  watch c (timeoutAt t p)

lemma expect (a? : Option α) : (Activity.expect a?).Timed := by
  cases a? <;> trivial

lemma sleepUntil (t : ℕ) : (Activity.sleepUntil t).Timed := by
  rintro (_ | _)
  · exact ⟨by simp [Wake.ofTimer], trivial⟩
  · trivial

/-- A run whose waits all have timers ends, unless it breaks off. -/
lemma run_ends {p : Activity α} (hp : p.Timed) (w : World) :
    p.aborts w = true ∨ ∃ a v, p.run w = (some a, v) := by
  induction p generalizing w with
  | done a => exact Or.inr ⟨a, w, rfl⟩
  | act a k ih => exact ih _ (hp _) _
  | wait wake k ih =>
    obtain ⟨t, ht⟩ := Option.ne_none_iff_exists'.mp hp.1
    obtain ⟨v, hv⟩ := Option.ne_none_iff_exists'.mp (World.sleep_ne_none ht w)
    rw [run_wait_of_some hv, aborts_wait_of_some hv]
    exact ih hp.2 v
  | never => exact absurd hp id
  | abort => exact Or.inl rfl

end Timed

/-! ## Activities that do not break off -/

/-- The activity does not break off, whatever its acts are answered. -/
def Unbroken : Activity α → Prop
  | done _ => True
  | act _ k => ∀ x, (k x).Unbroken
  | wait _ k => k.Unbroken
  | never => True
  | abort => False

namespace Unbroken

lemma bind {p : Activity α} {f : α → Activity β} (hp : p.Unbroken) (hf : ∀ a, (f a).Unbroken) :
    (p.bind f).Unbroken := by
  induction p with
  | done a => exact hf a
  | act a k ih => exact fun x => ih x (hp x)
  | wait wake k ih => exact ih hp
  | never => trivial
  | abort => exact hp

lemma watch (c : Context) {p : Activity α} (hp : p.Unbroken) : (p.watch c).Unbroken := by
  induction p with
  | done a => trivial
  | act a k ih => exact fun x => ih x (hp x)
  | wait wake k ih =>
    rintro (_ | r)
    · rintro (_ | r)
      · exact ih hp
      · trivial
    · trivial
  | never =>
    rintro (_ | r)
    · rintro (_ | r) <;> trivial
    · trivial
  | abort => exact hp

lemma untilDone (c : Context) {p : Activity α} (hp : p.Unbroken) : (p.untilDone c).Unbroken := by
  rintro (_ | r)
  · exact watch c hp
  · trivial

lemma timeoutAt (t : ℕ) {p : Activity α} (hp : p.Unbroken) : (p.timeoutAt t).Unbroken := by
  induction p with
  | done a => trivial
  | act a k ih => exact fun x => ih x (hp x)
  | wait wake k ih =>
    rintro (_ | _)
    · rintro (_ | _)
      · trivial
      · exact ih hp
    · trivial
  | never => rintro (_ | _) <;> trivial
  | abort => exact hp

lemma sleepUntil (t : ℕ) : (Activity.sleepUntil t).Unbroken := by
  rintro (_ | _) <;> trivial

lemma aborts_eq_false {p : Activity α} (hp : p.Unbroken) (w : World) : p.aborts w = false := by
  induction p generalizing w with
  | done a => rfl
  | act a k ih => exact ih _ (hp _) _
  | wait wake k ih =>
    cases hs : w.sleep wake with
    | none => exact aborts_wait_of_none hs k
    | some u =>
      rw [aborts_wait_of_some hs]
      exact ih hp u
  | never => rfl
  | abort => exact absurd hp id

/-- A run whose waits all have timers ends. -/
lemma run_ends {p : Activity α} (hp : p.Unbroken) (ht : p.Timed) (w : World) :
    ∃ a v, p.run w = (some a, v) :=
  (ht.run_ends w).resolve_left (by simp [hp.aborts_eq_false w])

end Unbroken

/-- If the activity breaks off, this is in a world of some kind. -/
structure BreaksOffIn (B : World → Prop) (p : Activity α) (w : World) : Prop where
  of_aborts : p.aborts w = true → B (p.run w).2

namespace BreaksOffIn

variable {B : World → Prop} {p : Activity α}

lemma of_unbroken (hp : p.Unbroken) : BreaksOffIn B p w :=
  ⟨fun h => absurd h (by simp [hp.aborts_eq_false])⟩

lemma act {a : Act} {k : a.Answer → Activity α}
    (h : BreaksOffIn B (k (w.perform a).1) (w.perform a).2) : BreaksOffIn B (act a k) w :=
  ⟨h.of_aborts⟩

lemma abort (h : B w) : BreaksOffIn B (abort : Activity α) w := ⟨fun _ => h⟩

/-- A sequence breaks off where its parts do. -/
lemma bind {f : α → Activity β} (hp : BreaksOffIn B p w)
    (hf : ∀ a v, p.run w = (some a, v) → BreaksOffIn B (f a) v) : BreaksOffIn B (p.bind f) w := by
  refine ⟨fun h => ?_⟩
  rcases hrun : p.run w with ⟨_ | a, v⟩
  · rw [aborts_bind_of_none hrun] at h
    have hworld := hp.of_aborts h
    rw [hrun] at hworld
    rwa [run_bind_of_none hrun]
  · rw [aborts_bind_of_some hrun] at h
    rw [run_bind_of_some hrun]
    exact (hf a v hrun).of_aborts h

end BreaksOffIn

/-! ## Runs that were not given up -/

/-- Where a context may end a wait, a run goes on only if the context is not done. -/
lemma run_of_run_pausing {e : Wake} {q : Activity (Except CancelReason α)} {a : α}
    (h : (act (.firstDue c.endings) fun
      | some r => done (.error r)
      | none => wait e (act (.firstDue c.endings) fun
        | some r => done (.error r)
        | none => q)).run w = (some (.ok a), v)) :
    ∃ u, w.sleep e = some u ∧ c.reasonIn u = none ∧ q.run u = (some (.ok a), v) := by
  rw [run_act, World.perform_endings] at h
  cases hr : c.reasonIn w with
  | some r => simp [hr] at h
  | none =>
    simp only [hr] at h
    cases hs : w.sleep e with
    | none => simp [run_wait_of_none hs] at h
    | some u =>
      rw [run_wait_of_some hs, run_act, World.perform_endings] at h
      cases hr' : c.reasonIn u with
      | some r => simp [hr'] at h
      | none =>
        simp only [hr'] at h
        exact ⟨u, rfl, hr', h⟩

/-- If the context is not done when a wait is over that it may end, the other wait is over. -/
lemma isDueIn_of_sleep_or {wake : Wake} {u : World} (hs : w.sleep (wake.or (.ofContext c)) = some u)
    (hr : c.reasonIn u = none) : wake.isDueIn u = true := by
  have hor := World.isDueIn_of_sleep hs
  rw [Wake.isDueIn_or, Wake.isDueIn_ofContext, hr] at hor
  simpa using hor

lemma run_of_run_watch {p : Activity α} {a : α} (h : (p.watch c).run w = (some (.ok a), v)) :
    p.run w = (some a, v) := by
  induction p generalizing w with
  | done b =>
    rw [watch, run_done, Prod.mk.injEq, Option.some.injEq, Except.ok.injEq] at h
    rw [run_done, h.1, h.2]
  | act b k ih =>
    rw [run_act]
    exact ih _ h
  | wait wake k ih =>
    obtain ⟨u, hs, hr, hk⟩ := run_of_run_pausing h
    rw [run_wait_of_some (World.sleep_of_sleep_or hs (isDueIn_of_sleep_or hs hr))]
    exact ih hk
  | never =>
    obtain ⟨u, -, -, hk⟩ := run_of_run_pausing h
    simp at hk
  | abort => simp [watch] at h

/-- A run that its context let come to an end. -/
lemma run_of_run_untilDone {p : Activity α} {x : Except CancelReason α}
    (h : (p.untilDone c).run w = (some x, v)) (hv : c.reasonIn v = none) :
    ∃ a, x = .ok a ∧ p.run w = (some a, v) := by
  have hsafe : (p.untilDone c).Safe (fun _ _ => True) (Watched c fun _ _ => True) w :=
    Safe.untilDone (fun _ => trivial) fun _ => Safe.of_true p w
  have hx := hsafe.result h
  cases x with
  | error r =>
    rw [Watched, hv] at hx
    exact absurd hx (by simp)
  | ok a =>
    refine ⟨a, rfl, ?_⟩
    rw [untilDone, run_act, World.perform_endings] at h
    cases hr : c.reasonIn w with
    | some r => simp [hr] at h
    | none =>
      simp only [hr] at h
      exact run_of_run_watch h

/-! ## Runs that a timer may cut off -/

/-- What is known when the time for an activity ends at an instant, with what it has come to by
then and the world at that moment: a result is its own, and without one the activity would not
have ended before the instant. -/
structure CutOff (t : ℕ) (p : Activity α) (w : World) (x : Option α) (v : World) : Prop where
  run_eq : ∀ a, x = some a → p.run w = (some a, v)
  late : x = none → t ≤ v.now ∧ ∀ a u, p.run w = (some a, u) → t ≤ u.now
  now_le : v.now ≤ max w.now (Instant.tick t)

namespace CutOff

variable {t : ℕ} {p : Activity α} {x : Option α}

/-- An instant that has come already. -/
lemma of_late (p : Activity α) (h : t ≤ w.now) : CutOff t p w none w :=
  ⟨fun _ ha => absurd ha (by simp), fun _ => ⟨h, fun _ _ ha => h.trans (later_of_run ha).now_le⟩,
    le_max_left _ _⟩

/-- What is known about the rest of an activity is known about the activity. -/
lemma of_run {q : Activity α} {u : World} (h : CutOff t q u x v) (hrun : p.run w = q.run u)
    (hu : u.now ≤ max w.now (Instant.tick t)) : CutOff t p w x v := by
  refine ⟨fun a ha => ?_, fun hx => ⟨(h.late hx).1, fun a u' ha => ?_⟩, ?_⟩
  · rw [hrun]
    exact h.run_eq a ha
  · rw [hrun] at ha
    exact (h.late hx).2 a u' ha
  · exact h.now_le.trans (max_le hu (le_max_right _ _))

/-- An instant that comes while the activity waits: by itself it would have waited at least as
long. -/
lemma of_sleep_or {wake : Wake} {k : Activity α} {u : World}
    (hs : w.sleep (wake.or (.ofTimer t)) = some u) (hdue : wake.isDueIn u = false)
    (hu : u.now ≤ max w.now (Instant.tick t)) : CutOff t (wait wake k) w none u := by
  have htimer : t ≤ u.now := by
    have hor := World.isDueIn_of_sleep hs
    rw [Wake.isDueIn_or, hdue, Bool.false_or] at hor
    exact Wake.isDueIn_ofTimer.mp hor
  refine ⟨fun a ha => absurd ha (by simp), fun _ => ⟨htimer, fun a v hv => ?_⟩, hu⟩
  cases hs' : w.sleep wake with
  | none => simp [run_wait_of_none hs'] at hv
  | some u' =>
    rw [run_wait_of_some hs'] at hv
    exact (htimer.trans (World.now_le_of_sleep_or hs hs')).trans (later_of_run hv).now_le

end CutOff

/-- A wait with a timer beside it ends by the tick of that timer. -/
lemma exists_sleep_or_ofTimer (wake : Wake) (t : ℕ) (w : World) :
    ∃ u, w.sleep (wake.or (.ofTimer t)) = some u ∧ u.now ≤ max w.now (Instant.tick t) := by
  obtain ⟨m, hm⟩ := Option.ne_none_iff_exists'.mp (Wake.earlier_some_ne_none wake.timer t)
  have htimer : (wake.or (.ofTimer t)).timer = some m := hm
  obtain ⟨u, hu⟩ := Option.ne_none_iff_exists'.mp (World.sleep_ne_none htimer w)
  have hle : u.now ≤ max w.now (Instant.tick m) :=
    World.now_le_of_mem_pause htimer (World.mem_pause_of_sleep hu)
  have htick : Instant.tick m ≤ Instant.tick t := Instant.tick_mono (Wake.le_of_earlier_some hm)
  exact ⟨u, hu, hle.trans (max_le_max le_rfl htick)⟩

/-- **Every activity that is given up at an instant comes to its own result in time, or would not
have come to it before.** -/
theorem cutOff_of_run_timeoutAt {t : ℕ} {p : Activity α} {x : Option α}
    (h : (p.timeoutAt t).run w = (some x, v)) : CutOff t p w x v := by
  induction p generalizing w with
  | done a =>
    rw [timeoutAt, run_done, Prod.mk.injEq, Option.some.injEq] at h
    obtain ⟨rfl, rfl⟩ := h
    exact ⟨fun b hb => by rw [run_done, hb], fun hx => absurd hx (by simp), le_max_left _ _⟩
  | act a k ih =>
    rw [timeoutAt, run_act] at h
    exact (ih _ h).of_run rfl (by rw [World.perform_now]; exact le_max_left _ _)
  | wait wake k ih =>
    rw [timeoutAt, run_act, World.perform_isDue] at h
    by_cases hlate : t ≤ w.now
    · rw [if_pos (Wake.isDueIn_ofTimer.mpr hlate), run_done, Prod.mk.injEq,
        Option.some.injEq] at h
      obtain ⟨rfl, rfl⟩ := h
      exact .of_late _ hlate
    · rw [if_neg (mt Wake.isDueIn_ofTimer.mp hlate)] at h
      obtain ⟨u, hu, hnow⟩ := exists_sleep_or_ofTimer wake t w
      rw [run_wait_of_some hu, run_act, World.perform_isDue] at h
      cases hown : wake.isDueIn u with
      | true =>
        rw [if_pos hown] at h
        exact (ih h).of_run (run_wait_of_some (World.sleep_of_sleep_or hu hown) k) hnow
      | false =>
        rw [if_neg (by simp [hown]), run_done, Prod.mk.injEq, Option.some.injEq] at h
        obtain ⟨rfl, rfl⟩ := h
        exact .of_sleep_or hu hown hnow
  | never =>
    rw [timeoutAt, run_act, World.perform_isDue] at h
    by_cases hlate : t ≤ w.now
    · rw [if_pos (Wake.isDueIn_ofTimer.mpr hlate), run_done, Prod.mk.injEq,
        Option.some.injEq] at h
      obtain ⟨rfl, rfl⟩ := h
      exact .of_late _ hlate
    · rw [if_neg (mt Wake.isDueIn_ofTimer.mp hlate)] at h
      have htimer : (Wake.ofTimer t).timer = some t := rfl
      obtain ⟨u, hu⟩ := Option.ne_none_iff_exists'.mp (World.sleep_ne_none htimer w)
      rw [run_wait_of_some hu, run_done, Prod.mk.injEq, Option.some.injEq] at h
      obtain ⟨rfl, rfl⟩ := h
      refine ⟨fun b hb => absurd hb (by simp), fun _ => ⟨?_, fun b u' hb => by simp at hb⟩,
        World.now_le_of_mem_pause htimer (World.mem_pause_of_sleep hu)⟩
      exact Wake.isDueIn_ofTimer.mp (World.isDueIn_of_sleep hu)
  | abort => simp [timeoutAt] at h

/-- What has come to something in time has come to it by itself. -/
lemma run_of_run_within {t : ℕ} {p : Activity α} {a : α}
    (h : (p.within t c).run w = (some (.ok (some a)), v)) : p.run w = (some a, v) :=
  (cutOff_of_run_timeoutAt (run_of_run_watch h)).run_eq a rfl

/-- What has not come to anything until the instant has come would not have done so before. -/
lemma late_of_run_within {t : ℕ} {p : Activity α}
    (h : (p.within t c).run w = (some (.ok none), v)) :
    t ≤ v.now ∧ ∀ a u, p.run w = (some a, u) → t ≤ u.now :=
  (cutOff_of_run_timeoutAt (run_of_run_watch h)).late rfl

lemma now_le_of_run_within_some {t : ℕ} {p : Activity α} {a : α}
    (h : (p.within t c).run w = (some (.ok (some a)), v)) : v.now ≤ max w.now (Instant.tick t) :=
  (cutOff_of_run_timeoutAt (run_of_run_watch h)).now_le

/-- What has been given up because its context was done would not have come to anything before. -/
lemma now_le_of_run_within_error {t : ℕ} {p : Activity α} {r : CancelReason} {a : α} {u : World}
    (h : (p.within t c).run w = (some (.error r), v)) (hown : p.run w = (some a, u)) :
    v.now ≤ u.now := by
  induction p generalizing w with
  | done b => simp [within, timeoutAt, watch] at h
  | act b k ih => exact ih _ h hown
  | wait wake k ih =>
    rw [within, timeoutAt, watch, run_act, World.perform_isDue] at h
    cases hlate : (Wake.ofTimer t).isDueIn w with
    | true => simp [hlate, watch] at h
    | false =>
      simp only [hlate, Bool.false_eq_true, if_false, watch, run_act, World.perform_endings] at h
      cases hr : c.reasonIn w with
      | some reason =>
        simp only [hr, run_done, Prod.mk.injEq] at h
        rw [← h.2]
        exact (later_of_run hown).now_le
      | none =>
        -- the wait goes on until the activity's own is over or something else ends it
        simp only [hr] at h
        cases hs : w.sleep ((wake.or (.ofTimer t)).or (.ofContext c)) with
        | none => simp [run_wait_of_none hs] at h
        | some m =>
          rw [Wake.or_assoc] at hs
          rw [Wake.or_assoc, run_wait_of_some hs, run_act, World.perform_endings] at h
          cases hs' : w.sleep wake with
          | none => simp [run_wait_of_none hs'] at hown
          | some m' =>
            rw [run_wait_of_some hs'] at hown
            cases hr' : c.reasonIn m with
            | some reason =>
              simp only [hr', run_done, Prod.mk.injEq] at h
              rw [← h.2]
              exact (World.now_le_of_sleep_or hs hs').trans (later_of_run hown).now_le
            | none =>
              simp only [hr', run_act, World.perform_isDue] at h
              cases hready : wake.isDueIn m with
              | false => simp [hready, watch] at h
              | true =>
                have hsame : w.sleep wake = some m := World.sleep_of_sleep_or hs hready
                rw [hs', Option.some.injEq] at hsame
                rw [hsame] at hown
                simp only [hready, if_true] at h
                exact ih h hown
  | never | abort => simp at hown

/-- What breaks off under a context breaks off by itself. -/
lemma aborts_of_aborts_watch {p : Activity α} (h : (p.watch c).aborts w = true) :
    p.aborts w = true := by
  induction p generalizing w with
  | done a => exact h
  | act a k ih => exact ih _ h
  | wait wake k ih =>
    rw [watch, aborts_act, World.perform_endings] at h
    cases hr : c.reasonIn w with
    | some reason => simp [hr] at h
    | none =>
      simp only [hr] at h
      cases hs : w.sleep (wake.or (.ofContext c)) with
      | none => simp [aborts_wait_of_none hs] at h
      | some u =>
        rw [aborts_wait_of_some hs, aborts_act, World.perform_endings] at h
        cases hr' : c.reasonIn u with
        | some reason => simp [hr'] at h
        | none =>
          simp only [hr'] at h
          rw [aborts_wait_of_some (World.sleep_of_sleep_or hs (isDueIn_of_sleep_or hs hr'))]
          exact ih h
  | never =>
    have hunbroken : ((never : Activity α).watch c).Unbroken := Unbroken.watch c trivial
    rw [hunbroken.aborts_eq_false] at h
    exact nomatch h
  | abort => rfl

/-- So does what breaks off under a timer. -/
lemma aborts_of_aborts_timeoutAt {t : ℕ} {p : Activity α} (h : (p.timeoutAt t).aborts w = true) :
    p.aborts w = true := by
  induction p generalizing w with
  | done a => exact h
  | act a k ih => exact ih _ h
  | wait wake k ih =>
    rw [timeoutAt, aborts_act, World.perform_isDue] at h
    cases hlate : (Wake.ofTimer t).isDueIn w with
    | true => simp [hlate] at h
    | false =>
      simp only [hlate, Bool.false_eq_true, if_false] at h
      cases hs : w.sleep (wake.or (.ofTimer t)) with
      | none => simp [aborts_wait_of_none hs] at h
      | some u =>
        rw [aborts_wait_of_some hs, aborts_act, World.perform_isDue] at h
        cases hready : wake.isDueIn u with
        | false => simp [hready] at h
        | true =>
          simp only [hready, if_true] at h
          rw [aborts_wait_of_some (World.sleep_of_sleep_or hs hready)]
          exact ih h
  | never =>
    have hunbroken : ((never : Activity α).timeoutAt t).Unbroken := Unbroken.timeoutAt t trivial
    rw [hunbroken.aborts_eq_false] at h
    exact nomatch h
  | abort => rfl

/-- What comes to nothing although a timer and a context may end it breaks off. -/
lemma aborts_of_run_within {t : ℕ} {p : Activity α} (h : (p.within t c).run w = (none, v)) :
    p.aborts w = true := by
  have haborts : (p.within t c).aborts w = true := by
    refine ((Timed.within t c p).run_ends w).resolve_right ?_
    rintro ⟨x, u, hx⟩
    exact nomatch (Prod.mk.inj (h.symm.trans hx)).1
  exact aborts_of_aborts_timeoutAt (aborts_of_aborts_watch haborts)

/-- An activity under a context that is not overdue at its beginning ends before the context is, or
because it is done. -/
lemma watched_of_run_within {t : ℕ} {p : Activity α} {x : Except CancelReason (Option α)}
    (hw : c.isOverdue w.now = false) (h : (p.within t c).run w = (some x, v)) :
    Watched c (fun _ _ => True) x v :=
  (Safe.watch (A := fun _ _ => True) (fun _ => trivial) (Safe.of_true _ w) hw).result h

/-! ## Runs that a context ends -/

/-- A run ends at the instant at which the context is done; if it waits then, it ends with an
answer that names the reason.  For a deadline this instant is the first whole millisecond at or
after it. -/
structure GivesWay (c : Context) (answer : CancelReason → α) (p : Activity α) (w : World) :
    Prop where
  now_eq : ∀ e ∈ p.trace w, (c.reasonIn e.world).isSome → (p.run w).2.now = e.world.now
  run_eq : ∀ v r, .waits v ∈ p.trace w → c.reasonIn v = some r → p.run w = (some (answer r), v)
  now_eq_tick : ∀ v d, .waits v ∈ p.trace w → c.deadline = some d → d ≤ v.now →
    v.now = Instant.tick d

namespace GivesWay

variable {answer : CancelReason → α}

lemma of_trace_eq_nil {p : Activity α} (h : p.trace w = []) : GivesWay c answer p w :=
  ⟨fun e he => by simp [h] at he, fun v r hv => by simp [h] at hv, fun v d hv => by simp [h] at hv⟩

lemma done (a : α) (w : World) : GivesWay c answer (done a) w := of_trace_eq_nil rfl

lemma abort (w : World) : GivesWay c answer (abort : Activity α) w := of_trace_eq_nil rfl

/-- What begins when the context is done ends at the same instant. -/
lemma now_eq_of_isSome {p : Activity α} (h : GivesWay c answer p w)
    (hw : (c.reasonIn w).isSome) : (p.run w).2.now = w.now := by
  rcases exists_mem_trace p w with hend | ⟨e, he, hew⟩
  · rw [hend]
  · have heq := h.now_eq e he
    rw [hew] at heq
    exact heq hw

lemma act {a : Act} {k : a.Answer → Activity α}
    (h : GivesWay c answer (k (w.perform a).1) (w.perform a).2) :
    GivesWay c answer (act a k) w := by
  refine ⟨fun e he hdone => ?_, fun v r hv hr => ?_, fun v d hv hd => ?_⟩
  · rw [trace_act, List.mem_cons] at he
    rcases he with rfl | he
    · rw [run_act, h.now_eq_of_isSome (Context.isSome_reasonIn_of_later (w.later_perform a) hdone),
        World.perform_now]
      rfl
    · exact h.now_eq e he hdone
  · rw [trace_act, List.mem_cons] at hv
    exact h.run_eq v r (hv.resolve_left (by simp)) hr
  · rw [trace_act, List.mem_cons] at hv
    exact h.now_eq_tick v d (hv.resolve_left (by simp)) hd

lemma bind {answer' : CancelReason → β} {p : Activity α} {f : α → Activity β}
    (hp : GivesWay c answer p w) (hend : ∀ r, f (answer r) = .done (answer' r))
    (hf : ∀ a v, p.run w = (some a, v) → GivesWay c answer' (f a) v) :
    GivesWay c answer' (p.bind f) w := by
  -- if the first part is ended by the context, the answer is passed on in the same world
  have hfirst : ∀ v r, .waits v ∈ p.trace w → c.reasonIn v = some r →
      (p.bind f).run w = (some (answer' r), v) := by
    intro v r hv hr
    rw [run_bind_of_some (hp.run_eq v r hv hr), hend, run_done]
  rcases hrun : p.run w with ⟨_ | a, u⟩
  · have hrun' := run_bind_of_none hrun f
    have htrace := trace_bind_of_none hrun f
    refine ⟨fun e he hdone => ?_, fun v r hv => hfirst v r (htrace ▸ hv),
      fun v d hv => hp.now_eq_tick v d (htrace ▸ hv)⟩
    have hnow := hp.now_eq e (htrace ▸ he) hdone
    rw [hrun] at hnow
    rw [hrun', hnow]
  · have hrun' := run_bind_of_some hrun f
    have htrace := trace_bind_of_some hrun f
    refine ⟨fun e he hdone => ?_, fun v r hv hr => ?_, fun v d hv hd => ?_⟩
    · rw [htrace, List.mem_append] at he
      rw [hrun']
      rcases he with he | he
      · have hnow := hp.now_eq e he hdone
        rw [hrun] at hnow
        -- the context stays done, so what follows ends at the instant at which it begins
        have hdone' := Context.isSome_reasonIn_of_later (later_end_of_mem_trace he hrun) hdone
        rw [(hf a u hrun).now_eq_of_isSome hdone', hnow]
      · exact (hf a u hrun).now_eq e he hdone
    · rw [htrace, List.mem_append] at hv
      rcases hv with hv | hv
      · exact hfirst v r hv hr
      · rw [hrun']
        exact (hf a u hrun).run_eq v r hv hr
    · rw [htrace, List.mem_append] at hv
      rcases hv with hv | hv
      · exact hp.now_eq_tick v d hv hd
      · exact (hf a u hrun).now_eq_tick v d hv hd

/-- In a wait that begins before a deadline, and that ends with it at the latest, the clock shows no
more than the tick of the deadline. -/
lemma now_eq_tick_of_mem_pause {e : Wake} {d m : ℕ} (hr : c.reasonIn w = none)
    (hd : c.deadline = some d) (hm : e.timer = some m) (hmd : m ≤ d) (hv : v ∈ w.pause e)
    (hdv : d ≤ v.now) : v.now = Instant.tick d := by
  have hwd : w.now < d :=
    Context.isOverdue_eq_false_iff.mp (Context.not_isOverdue_of_reasonIn hr) d hd
  have hle : v.now ≤ Instant.tick d := (World.now_le_of_mem_pause hm hv).trans
    (max_le (hwd.le.trans (Instant.le_tick d)) (Instant.tick_mono hmd))
  -- the wait began before the deadline, so the clock has gone on to a whole millisecond
  rcases (World.passes_of_mem_pause hv).ticks with hvw | hv'
  · omega
  · refine le_antisymm hle ?_
    rw [← hv']
    exact Instant.tick_mono hdv

/-- One wait that the context can end. -/
lemma pausing {e : Wake} {q : Activity (Except CancelReason α)}
    (hdue : ∀ v r, c.reasonIn v = some r → e.isDueIn v = true)
    (htimer : ∀ d, c.deadline = some d → ∃ m, e.timer = some m ∧ m ≤ d)
    (hq : ∀ v, e.isDueIn v = true → c.reasonIn v = none → GivesWay c .error q v) (w : World) :
    GivesWay c .error (.act (.firstDue c.endings) fun
      | some r => .done (.error r)
      | none => .wait e (.act (.firstDue c.endings) fun
        | some r => .done (.error r)
        | none => q)) w := by
  refine act ?_
  rw [World.perform_endings]
  cases hr : c.reasonIn w with
  | some r => exact done _ _
  | none =>
    simp only
    set K : Activity (Except CancelReason α) := .act (.firstDue c.endings) fun
      | some r => .done (.error r)
      | none => q with hK
    have hpause : ∀ v ∈ w.pause e, ∀ r, c.reasonIn v = some r →
        (Activity.wait e K).run w = (some (.error r), v) := by
      intro v hv r hvr
      rw [run_wait_of_some (World.sleep_of_mem_pause hv (hdue v r hvr)), hK, run_act,
        World.perform_endings, hvr, run_done]
    have hgo : ∀ v, e.isDueIn v = true → GivesWay c .error K v := by
      intro v hv
      refine act ?_
      rw [World.perform_endings]
      cases hvr : c.reasonIn v with
      | some r => exact done _ _
      | none => exact hq v hv hvr
    refine ⟨fun e' he hdone => ?_, fun v r hv hvr => ?_, fun v d hv hd => ?_⟩
    · rcases mem_trace_wait.mp he with ⟨v, hv, rfl⟩ | ⟨u, hs, he⟩
      · obtain ⟨r, hvr⟩ := Option.isSome_iff_exists.mp hdone
        rw [hpause v hv r hvr]
        rfl
      · rw [run_wait_of_some hs]
        exact (hgo u (World.isDueIn_of_sleep hs)).now_eq e' he hdone
    · rcases mem_trace_wait.mp hv with ⟨v, hv, heq⟩ | ⟨u, hs, hv⟩
      · injection heq with heq
        subst heq
        exact hpause _ hv r hvr
      · rw [run_wait_of_some hs]
        exact (hgo u (World.isDueIn_of_sleep hs)).run_eq v r hv hvr
    · rcases mem_trace_wait.mp hv with ⟨v, hv, heq⟩ | ⟨u, hs, hv⟩
      · injection heq with heq
        subst heq
        obtain ⟨m, hm, hmd⟩ := htimer d hd
        exact now_eq_tick_of_mem_pause hr hd hm hmd hv
      · exact (hgo u (World.isDueIn_of_sleep hs)).now_eq_tick v d hv hd

/-- **What a context watches ends in the first world of its waits in which the context is
done.** -/
theorem watch (c : Context) (p : Activity α) (w : World) :
    GivesWay c .error (p.watch c) w := by
  induction p generalizing w with
  | done a => exact done _ _
  | act a k ih => exact act (ih _ _)
  | wait wake k ih =>
    refine pausing (fun v r hr => ?_) (fun d hd => ?_) (fun v _ _ => ih v) w
    · rw [Wake.isDueIn_or, Wake.isDueIn_ofContext, hr, Option.isSome_some, Bool.or_true]
    · obtain ⟨m, hm⟩ := Option.ne_none_iff_exists'.mp (Wake.earlier_some_ne_none wake.timer d)
      refine ⟨m, ?_, Wake.le_of_earlier_some hm⟩
      rw [Wake.or, Wake.ofContext, hd, hm]
  | never =>
    refine pausing (fun v r hr => ?_) (fun d hd => ⟨d, hd, le_refl d⟩)
      (fun v hv hr => ?_) w
    · rw [Wake.isDueIn_ofContext, hr, Option.isSome_some]
    · rw [Wake.isDueIn_ofContext, hr] at hv
      exact absurd hv (by simp)
  | abort => exact abort w

lemma untilDone (c : Context) (p : Activity α) (w : World) :
    GivesWay c .error (p.untilDone c) w := by
  refine act ?_
  rw [World.perform_endings]
  cases hr : c.reasonIn w with
  | some r => exact done _ _
  | none => exact watch c p w

end GivesWay

end Activity

end QueueClient
