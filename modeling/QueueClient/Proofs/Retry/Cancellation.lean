/-
# Cancellation of retried requests

However long the stages below take and whatever they come to, and whether a try or a wait between
two tries is under way: the retry stage returns at the instant at which the caller's context is
done.  It looks at the context in five places (before each try, before and within the try, after
an error and within the wait), and they agree because each of them is a bind of something that
gives way (`GivesWay.bind`) to something that looks at the context first.  Where the clock cannot
name the end of a try or of a wait, the stage breaks off (`OutOfTime`) and returns nothing.
-/
import QueueClient.Proofs.Retry.Tries

namespace QueueClient.Retry

open Activity

variable {o : RetryOptions} {log : Logger} {next : Stage} {ctx : Context} {r : Request}

/-- The answer to whoever waits no longer. -/
def cancelledOutcome (reason : CancelReason) : Outcome := .error (.cancelled reason)

/-! ## Every run ends or breaks off -/

lemma timed_log (g : Logger) (l : Level) (text : String) : (g.log l text).Timed := by
  rw [Logger.log]
  split
  · exact fun _ => trivial
  · trivial

lemma timed_settle (n : ℕ) (answer : Option Outcome) : (settle o ctx n answer).Timed := by
  rw [settle]
  split
  · trivial
  · rintro (_ | _) <;> trivial

lemma timed_attempt (n : ℕ) : (attempt o next ctx n r).Timed := by
  rw [attempt_eq]
  rintro (e | copy)
  · trivial
  · refine Timed.bind ?_ fun q now => (Timed.expect _).bind fun limit token =>
      ((Timed.timeoutAt _ _).untilDone ctx).bind ?_
    · rw [renew]
      split
      · exact fun _ => trivial
      · trivial
    · rintro (reason | answer)
      · trivial
      · exact timed_settle n answer

lemma timed_pause (n maxTries : ℕ) (cause : String) :
    (pause o log ctx n maxTries cause).Timed :=
  fun _ => (timed_log log _ _).bind fun _ =>
    Timed.bind (fun _ => Timed.expect _) fun t => (Timed.sleepUntil t).untilDone ctx

lemma timed_resume {rest : Activity Outcome} (h : rest.Timed) (x : Except CancelReason Unit) :
    (resume rest x).Timed := by
  cases x with
  | error reason => trivial
  | ok _ => exact h

/-- **The retry stage does not wait for ever.** -/
theorem timed_tries (left n : ℕ) : (tries o log next ctx r left n).Timed := by
  induction left generalizing n with
  | zero =>
    rw [tries_zero]
    rintro (_ | reason)
    · refine (timed_attempt n).bind fun outcome => ?_
      cases cause? outcome with
      | none => trivial
      | some cause => exact (timed_log log _ _).bind fun _ => trivial
    · trivial
  | succ left ih =>
    rw [tries_succ]
    rintro (_ | reason)
    · refine (timed_attempt n).bind fun outcome => ?_
      cases cause? outcome with
      | none => trivial
      | some cause => exact (timed_pause n _ cause).bind (timed_resume (ih (n + 1)))
    · trivial

/-! ## Where runs break off -/

/-- The clock cannot name the end of a try that would begin in this world, or cannot even name the
instant thirty years on. -/
def OutOfTime (o : RetryOptions) (w : World) : Prop :=
  Instant.last < w.now + o.tryTimeout.nanos ∨ Instant.last < w.now + Instant.thirtyYears.nanos

lemma unbroken_log (g : Logger) (l : Level) (text : String) : (g.log l text).Unbroken := by
  rw [Logger.log]
  split
  · exact fun _ => trivial
  · trivial

lemma unbroken_settle (n : ℕ) (answer : Option Outcome) : (settle o ctx n answer).Unbroken := by
  rw [settle]
  split
  · trivial
  · rintro (_ | _) <;> trivial

lemma unbroken_conclude (n : ℕ) (x : Except CancelReason (Option Outcome)) :
    (conclude o ctx n x).Unbroken := by
  rcases x with reason | answer
  · trivial
  · exact unbroken_settle n answer

lemma unbroken_tryUntil (hnext : ∀ c q, (next c q).Unbroken) (n : ℕ) (q : Request)
    (now deadline : ℕ) : (tryUntil o next ctx n q now deadline).Unbroken :=
  fun _ => (((hnext _ _).timeoutAt _).untilDone ctx).bind fun x => unbroken_conclude n x

lemma breaksOff_tryFrom (hnext : ∀ c q, (next c q).Unbroken) (n : ℕ) (q : Request) (w : World) :
    BreaksOffIn (OutOfTime o) (tryFrom o next ctx n q w.now) w := by
  rcases Nat.lt_or_ge Instant.last (w.now + o.tryTimeout.nanos) with hlast | hnamed
  · rw [tryFrom_of_lt hlast]
    exact .abort (Or.inl hlast)
  · rw [tryFrom_of_le hnamed]
    exact .of_unbroken (unbroken_tryUntil hnext n q _ _)

lemma breaksOff_attempt (hnext : ∀ c q, (next c q).Unbroken) (n : ℕ) (w : World) :
    BreaksOffIn (OutOfTime o) (attempt o next ctx n r) w := by
  rw [attempt_eq]
  refine BreaksOffIn.act ?_
  cases (w.perform (.rewind r n)).1 with
  | error e => exact .of_unbroken trivial
  | ok copy =>
    show BreaksOffIn (OutOfTime o) ((renew n copy).bind (proceed o next ctx n)) _
    rw [renew]
    split
    · exact BreaksOffIn.act (BreaksOffIn.act (breaksOff_tryFrom hnext n _ _))
    · exact BreaksOffIn.act (breaksOff_tryFrom hnext n _ _)

lemma breaksOff_pause (n maxTries : ℕ) (cause : String) (w : World) :
    BreaksOffIn (OutOfTime o) (pause o log ctx n maxTries cause) w := by
  refine BreaksOffIn.act (BreaksOffIn.bind (.of_unbroken (unbroken_log _ _ _)) fun _ u _ => ?_)
  refine BreaksOffIn.act ?_
  show BreaksOffIn (OutOfTime o) ((expect (Instant.wakeUp? u.now _)).bind _) u
  cases ht : Instant.wakeUp? u.now _ with
  | none =>
    rw [Instant.wakeUp?, Option.or_eq_none_iff] at ht
    exact .abort (Or.inr (Instant.after?_eq_none_iff.mp ht.2))
  | some t => exact .of_unbroken ((Unbroken.sleepUntil t).untilDone ctx)

lemma breaksOff_resume {rest : Activity Outcome} (h : ∀ v, BreaksOffIn (OutOfTime o) rest v)
    (x : Except CancelReason Unit) (w : World) : BreaksOffIn (OutOfTime o) (resume rest x) w := by
  cases x with
  | error reason => exact .of_unbroken trivial
  | ok _ => exact h w

/-- **If nothing below breaks off, requests do so for want of a name for an instant only.** -/
theorem breaksOff_tries (hnext : ∀ c q, (next c q).Unbroken) (left n : ℕ) (w : World) :
    BreaksOffIn (OutOfTime o) (tries o log next ctx r left n) w := by
  induction left generalizing n w with
  | zero =>
    rw [tries_zero]
    refine BreaksOffIn.act ?_
    cases (w.perform (.reason ctx)).1 with
    | some reason => exact .of_unbroken trivial
    | none =>
      refine (breaksOff_attempt hnext n _).bind fun outcome v _ => ?_
      cases cause? outcome with
      | none => exact .of_unbroken trivial
      | some cause => exact .of_unbroken ((unbroken_log _ _ _).bind fun _ => trivial)
  | succ left ih =>
    rw [tries_succ]
    refine BreaksOffIn.act ?_
    cases (w.perform (.reason ctx)).1 with
    | some reason => exact .of_unbroken trivial
    | none =>
      refine (breaksOff_attempt hnext n _).bind fun outcome v _ => ?_
      cases cause? outcome with
      | none => exact .of_unbroken trivial
      | some cause =>
        exact (breaksOff_pause n _ cause v).bind fun x u _ => breaksOff_resume (ih (n + 1)) x u

/-! ## Every run gives way -/

lemma givesWay_log {α : Type} {answer : CancelReason → α} {g : Logger} {l : Level} {text : String}
    {f : Unit → Activity α} (h : ∀ v, GivesWay ctx answer (f ()) v) (w : World) :
    GivesWay ctx answer ((g.log l text).bind f) w := by
  rw [Logger.log]
  split
  · exact GivesWay.act (h _)
  · exact h w

lemma givesWay_settle (n : ℕ) (answer : Option Outcome) (w : World) :
    GivesWay ctx cancelledOutcome (settle o ctx n answer) w := by
  rw [settle]
  split
  · exact GivesWay.done _ _
  · refine GivesWay.act ?_
    rw [World.perform_reason]
    cases ctx.reasonIn w <;> exact GivesWay.done _ _

lemma givesWay_proceed (n : ℕ) (q : Request) (w : World) :
    GivesWay ctx cancelledOutcome (proceed o next ctx n q) w := by
  refine GivesWay.act ?_
  show GivesWay ctx cancelledOutcome (tryFrom o next ctx n q w.now) w
  rcases Nat.lt_or_ge Instant.last (w.now + o.tryTimeout.nanos) with hlast | hnamed
  · rw [tryFrom_of_lt hlast]
    exact GivesWay.abort w
  rw [tryFrom_of_le hnamed]
  refine GivesWay.act ?_
  refine (GivesWay.untilDone ctx _ _).bind (fun reason => rfl) ?_
  rintro (reason | answer) u -
  · exact GivesWay.done _ _
  · exact givesWay_settle n answer u

lemma givesWay_attempt (n : ℕ) (w : World) :
    GivesWay ctx cancelledOutcome (attempt o next ctx n r) w := by
  rw [attempt_eq]
  refine GivesWay.act ?_
  cases (w.perform (.rewind r n)).1 with
  | error e => exact GivesWay.done _ _
  | ok copy =>
    show GivesWay ctx cancelledOutcome ((renew n copy).bind (proceed o next ctx n)) _
    rw [renew]
    split
    · exact GivesWay.act (givesWay_proceed n _ _)
    · exact givesWay_proceed n _ _

lemma givesWay_pause (n maxTries : ℕ) (cause : String) (w : World) :
    GivesWay ctx .error (pause o log ctx n maxTries cause) w := by
  refine GivesWay.act (givesWay_log (fun u => GivesWay.act ?_) _)
  show GivesWay ctx Except.error ((expect (Instant.wakeUp? u.now _)).bind _) u
  cases Instant.wakeUp? u.now _ with
  | none => exact GivesWay.abort u
  | some t => exact GivesWay.untilDone ctx (sleepUntil t) u

lemma givesWay_resume {rest : Activity Outcome} (h : ∀ v, GivesWay ctx cancelledOutcome rest v)
    (x : Except CancelReason Unit) (w : World) :
    GivesWay ctx cancelledOutcome (resume rest x) w := by
  cases x with
  | error reason => exact GivesWay.done _ _
  | ok _ => exact h w

theorem givesWay_tries (left n : ℕ) (w : World) :
    GivesWay ctx cancelledOutcome (tries o log next ctx r left n) w := by
  induction left generalizing n w with
  | zero =>
    rw [tries_zero]
    refine GivesWay.act ?_
    rw [World.perform_reason]
    cases ctx.reasonIn w with
    | some reason => exact GivesWay.done _ _
    | none =>
      refine (givesWay_attempt n w).bind (fun reason => rfl) fun outcome v _ => ?_
      cases cause? outcome with
      | none => exact GivesWay.done _ _
      | some cause => exact givesWay_log (fun _ => GivesWay.done outcome _) v
  | succ left ih =>
    rw [tries_succ]
    refine GivesWay.act ?_
    rw [World.perform_reason]
    cases ctx.reasonIn w with
    | some reason => exact GivesWay.done _ _
    | none =>
      refine (givesWay_attempt n w).bind (fun reason => rfl) fun outcome v _ => ?_
      cases cause? outcome with
      | none => exact GivesWay.done _ _
      | some cause =>
        exact (givesWay_pause n _ cause v).bind (fun reason => rfl) fun x u _ =>
          givesWay_resume (ih (n + 1)) x u

/-! ## Both together -/

/-- **Cancellation is exact.**  Whatever is below and in whatever world a request is sent, no call
below is made when the caller's context is done.  The run is over at the instant at which the
context is done, in a try and between tries: if it waits then, it returns the cancellation in that
very world, for a deadline at the first whole millisecond.  An error that is returned is a
cancellation if and only if the context is done on return, for the reason that it names, and
anything else is returned before the deadline only.  A run that returns nothing breaks off; it does
not wait for ever, and if nothing below breaks off, it does so only where the clock cannot name an
instant to come. -/
theorem policy_cancellation_exact (o : RetryOptions) (below : Callee) (log : Logger)
    (ctx : Context) (r : Request) (w : World) :
    (∀ call ∈ (send o below log ctx r).calls w, ctx.reasonIn call.world = none) ∧
    (∀ v, .waits v ∈ (send o below log ctx r).trace w →
      (∀ reason, ctx.reasonIn v = some reason →
        (send o below log ctx r).run w = (some (.error (.cancelled reason)), v)) ∧
      ∀ d, ctx.deadline = some d → d ≤ v.now → v.now = Instant.tick d) ∧
    (∀ event ∈ (send o below log ctx r).trace w, (ctx.reasonIn event.world).isSome →
      ((send o below log ctx r).run w).2.now = event.world.now) ∧
    (∀ outcome w', (send o below log ctx r).run w = (some outcome, w') →
      (∀ e, outcome = .error e →
        ∀ reason, e = .cancelled reason ↔ ctx.reasonIn w' = some reason) ∧
      ((∀ reason, outcome ≠ .error (.cancelled reason)) →
        ∀ d, ctx.deadline = some d → w'.now < d)) ∧
    (((send o below log ctx r).run w).1 = none → (send o below log ctx r).aborts w = true ∧
      ((∀ n c q, (below.answer n c q).Unbroken) →
        OutOfTime o.withDefaults ((send o below log ctx r).run w).2)) := by
  have hsafe : (send o below log ctx r).Safe
      (Act.CallsAre fun _ _ v => ctx.reasonIn v = none) (Tells ctx) w :=
    safe_tries (fun n c q v htry => Safe.call htry.live) _ _ w
  have hway : GivesWay ctx cancelledOutcome (send o below log ctx r) w := givesWay_tries _ _ w
  have htimed : (send o below log ctx r).Timed := timed_tries _ _
  refine ⟨fun call hcall => hsafe.of_mem_calls hcall, fun v hv => ⟨fun reason hreason => ?_,
    fun d hd => hway.now_eq_tick v d hv hd⟩, hway.now_eq, fun outcome w' hrun => ?_,
    fun hnone => ?_⟩
  · exact hway.run_eq v reason hv hreason
  · have htells : Tells ctx outcome w' := hsafe.result hrun
    refine ⟨?_, fun hother => ?_⟩
    · rintro e rfl
      exact htells
    -- other outcomes tell that the caller still waits
    · have hoverdue : ctx.isOverdue w'.now = false := by
        cases outcome with
        | ok response => exact htells
        | error e =>
          cases hr : ctx.reasonIn w' with
          | none => exact Context.not_isOverdue_of_reasonIn hr
          | some reason =>
            rw [(htells reason).mpr hr] at hother
            exact absurd rfl (hother reason)
      exact Context.isOverdue_eq_false_iff.mp hoverdue
  · have haborts : (send o below log ctx r).aborts w = true := by
      refine (htimed.run_ends w).resolve_right ?_
      rintro ⟨outcome, w', hrun⟩
      rw [hrun] at hnone
      exact nomatch hnone
    refine ⟨haborts, fun hbelow => ?_⟩
    have hnext : ∀ c q, (below.stage c q).Unbroken := fun c q m => hbelow m c q
    exact (breaksOff_tries hnext _ _ w).of_aborts haborts

end QueueClient.Retry
