/-
# What each try is

Each try calls the next stage once, while the caller's context is not done, with a context that
ends with the time for the try or with the caller's and with a copy of the caller's request, whose
URL asks the service to keep to that time (`IsTry`).  Nothing that an earlier try did to its copy
shows in a later one.  Where the clock cannot name the end of that time there is no call: the
request breaks off (`tryFrom_of_lt`).

What a request comes to in the end tells the truth about the caller's context (`Tells`): an error
is a cancellation if and only if the context is done, for the reason that it names, and a response
is returned before the deadline only.  Both are properties of a single try that go through the
loop (`safe_attempt`, `safe_tries`).
-/
import QueueClient.Proofs.Retry.Backoff
import QueueClient.Proofs.Stage.Calls
import QueueClient.Retry.Stage

namespace QueueClient

/-- An entry in the log changes nothing but the records. -/
lemma Logger.safe_log {P : Context → Request → World → Prop} (g : Logger) (l : Level)
    (text : String) (w : World) :
    (g.log l text).Safe (Act.CallsAre P) (fun _ v => ∃ records, v = { w with records }) w := by
  rw [Logger.log]
  split
  · exact ⟨Act.IsQuiet.callsAre trivial, _, rfl⟩
  · exact ⟨_, rfl⟩

lemma Logger.run_log (g : Logger) (l : Level) (text : String) (w : World) :
    ∃ records, (g.log l text).run w = (some (), { w with records }) := by
  rw [Logger.log]
  split
  · exact ⟨_, rfl⟩
  · exact ⟨w.records, rfl⟩

/-- A deadline that was taken into account already changes nothing. -/
lemma earliest_earliest (deadline : Option ℕ) (t : ℕ) :
    earliest deadline (earliest deadline t) = earliest deadline t := by
  cases deadline with
  | none => rfl
  | some d =>
    simp only [earliest]
    split <;> simp_all

namespace Retry

variable {o : RetryOptions} {log : Logger} {next : Stage} {ctx c : Context} {r q : Request}
  {n : ℕ} {w v : World} {P : Context → Request → World → Prop}

/-- The instant at which a try ends that begins now: at the end of the time for a try, or at the
caller's deadline if that is earlier. -/
def tryEnd (o : RetryOptions) (ctx : Context) (now : ℕ) : ℕ :=
  earliest ctx.deadline (now + o.tryTimeout.nanos)

/-- The copy of a request for a try: as it is, but for a made-up id, which later tries replace. -/
def IsCopy (n : ℕ) (r q : Request) : Prop :=
  q = r ∨ 1 < n ∧ r.generatedId = true ∧
    ∃ id, q = { r with headers := r.headers.insert clientRequestIdHeader (Utf8.encode id) }

/-- What becomes of a call that is given up at the end of the caller's context. -/
def conclude (o : RetryOptions) (ctx : Context) (n : ℕ) :
    Except CancelReason (Option Outcome) → Activity Outcome
  | .error reason => .done (.error (.cancelled reason))
  | .ok answer => settle o ctx n answer

/-- A try from the moment at which the end of its time is known. -/
def tryUntil (o : RetryOptions) (next : Stage) (ctx : Context) (n : ℕ) (q : Request)
    (now deadline : ℕ) : Activity Outcome :=
  .act (.branch ctx.token) fun token =>
    (((next (ctx.deriveFor token n deadline)
        { q with url := q.url.setServerTimeout (Instant.since deadline now) }).timeoutAt
          deadline).untilDone ctx).bind (conclude o ctx n)

/-- A try that begins at an instant, if the clock can name the end of its time. -/
def tryFrom (o : RetryOptions) (next : Stage) (ctx : Context) (n : ℕ) (q : Request) (now : ℕ) :
    Activity Outcome :=
  (Activity.expect (Instant.after? now o.tryTimeout)).bind fun limit =>
    tryUntil o next ctx n q now (earliest ctx.deadline limit)

/-- A try from the moment at which it has its copy of the request. -/
def proceed (o : RetryOptions) (next : Stage) (ctx : Context) (n : ℕ) (q : Request) :
    Activity Outcome :=
  .act .now fun now => tryFrom o next ctx n q now

lemma attempt_eq (o : RetryOptions) (next : Stage) (ctx : Context) (n : ℕ) (r : Request) :
    attempt o next ctx n r = .act (.rewind r n) fun
      | .error e => .done (.error e)
      | .ok copy => (renew n copy).bind (proceed o next ctx n) := rfl

/-- While the clock can name the end of its time, a try ends there or at the caller's deadline. -/
lemma tryFrom_of_le {now : ℕ} (h : now + o.tryTimeout.nanos ≤ Instant.last) :
    tryFrom o next ctx n q now = tryUntil o next ctx n q now (tryEnd o ctx now) := by
  rw [tryFrom, Instant.after?_of_le h, Activity.bind_expect_some, tryEnd]

/-- When it cannot, there is no try. -/
lemma tryFrom_of_lt {now : ℕ} (h : Instant.last < now + o.tryTimeout.nanos) :
    tryFrom o next ctx n q now = .abort := by
  rw [tryFrom, Instant.after?_of_lt h, Activity.bind_expect_none]

/-- A call of the next stage by try number `n` of a request for a caller. -/
structure IsTry (o : RetryOptions) (ctx : Context) (r : Request) (n : ℕ) (c : Context)
    (q : Request) (w : World) : Prop where
  /-- The caller still waits. -/
  live : ctx.reasonIn w = none
  /-- The clock can name the end of the time for the try. -/
  named : w.now + o.tryTimeout.nanos ≤ Instant.last
  context : ∃ token, c = ctx.deriveFor token n (tryEnd o ctx w.now)
  request : ∃ copy, IsCopy n r copy ∧
    q = { copy with url := copy.url.setServerTimeout (Instant.since (tryEnd o ctx w.now) w.now) }

/-- The outcome tells the truth about a caller's context. -/
def Tells (ctx : Context) : Outcome → World → Prop
  | .ok _, v => ctx.isOverdue v.now = false
  | .error e, v => ∀ reason, e = .cancelled reason ↔ ctx.reasonIn v = some reason

lemma Tells.of_live {e : Error} (hlive : ctx.reasonIn w = none)
    (he : ∀ reason, e ≠ .cancelled reason) : Tells ctx (.error e) w :=
  fun reason => ⟨fun h => absurd h (he reason), fun h => by rw [hlive] at h; cases h⟩

lemma Tells.of_done {reason : CancelReason} (h : ctx.reasonIn w = some reason) :
    Tells ctx (.error (.cancelled reason)) w := by
  intro reason'
  rw [h, Error.cancelled.injEq, Option.some.injEq]

lemma Tells.of_records {x : Outcome} (h : Tells ctx x w) (records : List LogRecord) :
    Tells ctx x { w with records } := by
  cases x <;> exact h

/-! ## One try -/

lemma all_renew {P : Act → Prop} (hP : P .newId) (n : ℕ) (r : Request) : (renew n r).All P := by
  rw [renew]
  split
  · exact ⟨hP, fun _ => trivial⟩
  · trivial

lemma all_conclude {P : Act → Prop} (hP : P (.reason ctx)) (n : ℕ)
    (x : Except CancelReason (Option Outcome)) : (conclude o ctx n x).All P := by
  cases x with
  | error reason => trivial
  | ok answer =>
    rw [conclude, settle]
    split
    · trivial
    · exact ⟨hP, fun reason => by cases reason <;> trivial⟩

lemma timedOut_ne_cancelled (o : RetryOptions) (n : ℕ) (reason : CancelReason) :
    timedOut o n ≠ .cancelled reason := by
  rw [timedOut]
  exact fun h => by cases h

lemma safe_renew (n : ℕ) (r : Request) (w : World) :
    (renew n r).Safe (Act.CallsAre P) (fun q _ => IsCopy n r q) w := by
  rw [renew]
  split
  · rename_i h
    exact ⟨Act.IsQuiet.callsAre trivial, Or.inr ⟨h.1, h.2, _, rfl⟩⟩
  · exact Or.inl rfl

/-- What came from below is passed on as it should be. -/
lemma safe_settle (answer : Option Outcome)
    (hw : ctx.isOverdue w.now = false) :
    (settle o ctx n answer).Safe (Act.CallsAre P) (Tells ctx) w := by
  rw [settle]
  cases answer.getD (.error (timedOut o n)) with
  | ok response => exact hw
  | error e =>
    refine ⟨Act.IsQuiet.callsAre trivial, ?_⟩
    rw [World.perform_reason]
    cases hr : ctx.reasonIn w with
    | some reason => exact Tells.of_done hr
    | none =>
      refine Tells.of_live hr fun reason => ?_
      split
      · exact timedOut_ne_cancelled o n reason
      · rename_i hcancel
        rintro rfl
        exact hcancel rfl

lemma safe_proceed (hq : IsCopy n r q)
    (hnext : ∀ c q v, IsTry o ctx r n c q v →
      (next c q).Safe (Act.CallsAre P) (fun _ _ => True) v) :
    (proceed o next ctx n q).Safe (Act.CallsAre P) (Tells ctx) w := by
  refine ⟨Act.IsQuiet.callsAre trivial, ?_⟩
  show (tryFrom o next ctx n q w.now).Safe _ _ w
  rcases Nat.lt_or_ge Instant.last (w.now + o.tryTimeout.nanos) with hlast | hnamed
  · rw [tryFrom_of_lt hlast]
    trivial
  rw [tryFrom_of_le hnamed]
  refine ⟨Act.IsQuiet.callsAre trivial, ?_⟩
  refine (Activity.Safe.untilDone (Q := fun _ _ => True) (fun _ => Act.IsQuiet.callsAre trivial)
    fun hr => ?_).bind fun x u hx => ?_
  · exact (Activity.Safe.timeoutAt (fun _ _ => Act.IsQuiet.callsAre trivial)
      (hnext _ _ _ ⟨hr, hnamed, ⟨_, rfl⟩, q, hq, rfl⟩)).mono (fun _ _ h => h) fun _ _ _ => trivial
  · cases x with
    | error reason => exact Tells.of_done hx
    | ok answer => exact safe_settle answer hx.2

lemma safe_attempt (hlive : ctx.reasonIn w = none)
    (hnext : ∀ c q v, IsTry o ctx r n c q v →
      (next c q).Safe (Act.CallsAre P) (fun _ _ => True) v) :
    (attempt o next ctx n r).Safe (Act.CallsAre P) (Tells ctx) w := by
  rw [attempt_eq]
  refine ⟨Act.IsQuiet.callsAre trivial, ?_⟩
  -- a request that has no copy ends the loop without a call
  have hrewind : (w.perform (.rewind r n)).1 = r.rewind w.streams n := rfl
  rw [hrewind, Request.rewind]
  split
  · exact (safe_renew n r _).bind fun q v hq => safe_proceed hq hnext
  · exact Tells.of_live hlive fun reason h => by cases h

/-! ## The loop -/

/-- The last try. -/
lemma tries_zero (o : RetryOptions) (log : Logger) (next : Stage) (ctx : Context) (r : Request)
    (n : ℕ) :
    tries o log next ctx r 0 n = .act (.reason ctx) fun
      | some reason => .done (.error (.cancelled reason))
      | none => (attempt o next ctx n r).bind fun outcome =>
        match cause? outcome with
        | none => .done outcome
        | some cause => (log.log .info (gaveUpText n cause)).bind fun _ => .done outcome := by
  unfold tries
  rfl

/-- The wait between two tries: of a given length, and while the caller waits. -/
def waitFor (ctx : Context) (delay : Duration) : Activity (Except CancelReason Unit) :=
  (Activity.wakeUp delay).bind fun t => (Activity.sleepUntil t).untilDone ctx

lemma all_waitFor {P : Act → Prop} (hnow : P .now) (hdue : ∀ wake, P (.isDue wake))
    (hctx : P (.firstDue ctx.endings)) (delay : Duration) : (waitFor ctx delay).All P :=
  Activity.All.bind (Activity.All.wakeUp hnow delay) fun t =>
    (Activity.All.sleepUntil hdue t).untilDone hctx

/-- What the loop does between two tries: it draws, leaves an entry and waits. -/
def pause (o : RetryOptions) (log : Logger) (ctx : Context) (n maxTries : ℕ) (cause : String) :
    Activity (Except CancelReason Unit) :=
  .act .draw fun draw =>
    (log.log .info (retryingText n maxTries cause
      (o.delay n (RetryOptions.jitter draw)))).bind fun _ =>
        waitFor ctx (o.delay n (RetryOptions.jitter draw))

/-- What a pause leads to. -/
def resume (rest : Activity Outcome) : Except CancelReason Unit → Activity Outcome
  | .error reason => .done (.error (.cancelled reason))
  | .ok () => rest

/-- A try that is not the last. -/
lemma tries_succ (o : RetryOptions) (log : Logger) (next : Stage) (ctx : Context) (r : Request)
    (left n : ℕ) :
    tries o log next ctx r (left + 1) n = .act (.reason ctx) fun
      | some reason => .done (.error (.cancelled reason))
      | none => (attempt o next ctx n r).bind fun outcome =>
        match cause? outcome with
        | none => .done outcome
        | some cause =>
          (pause o log ctx n (n + left + 1) cause).bind
            (resume (tries o log next ctx r left (n + 1))) := by
  rw [tries]
  refine congrArg (Activity.act _) (funext fun reason => ?_)
  cases reason with
  | some reason => rfl
  | none =>
    refine congrArg (Activity.bind _) (funext fun outcome => ?_)
    cases cause? outcome with
    | none => rfl
    | some cause =>
      refine congrArg (Activity.act .draw) (funext fun draw => ?_)
      -- the length of the wait is there
      rw [RetryOptions.delay?_eq_some, Activity.bind_expect_some, Activity.bind_assoc]
      refine congrArg (Activity.bind _) (funext fun _ => ?_)
      rw [waitFor, Activity.bind_assoc]
      refine congrArg (Activity.bind _) (funext fun t => congrArg (Activity.bind _) ?_)
      funext y
      cases y <;> rfl

/-- One round of the loop: a look at the context, a try, and whatever becomes of its outcome. -/
lemma safe_round {f : Outcome → Activity Outcome}
    (hnext : ∀ c q v, IsTry o ctx r n c q v → (next c q).Safe (Act.CallsAre P) (fun _ _ => True) v)
    (hf : ∀ x v, Tells ctx x v → (f x).Safe (Act.CallsAre P) (Tells ctx) v) (w : World) :
    (Activity.act (.reason ctx) fun
      | some reason => .done (.error (.cancelled reason))
      | none => (attempt o next ctx n r).bind f).Safe (Act.CallsAre P) (Tells ctx) w := by
  refine ⟨Act.IsQuiet.callsAre trivial, ?_⟩
  rw [World.perform_reason]
  cases hr : ctx.reasonIn w with
  | some reason => exact Tells.of_done hr
  | none => exact (safe_attempt hr hnext).bind hf

lemma all_pause {P : Act → Prop} (hdraw : P .draw) (hrecord : ∀ rs, P (.record rs))
    (hnow : P .now) (hdue : ∀ wake, P (.isDue wake)) (hctx : P (.firstDue ctx.endings))
    (maxTries : ℕ) (cause : String) : (pause o log ctx n maxTries cause).All P :=
  ⟨hdraw, fun _ => Activity.All.bind (Activity.All.log hrecord log .info _) fun _ =>
    all_waitFor hnow hdue hctx _⟩

lemma quiet_pause (maxTries : ℕ) (cause : String) : (pause o log ctx n maxTries cause).Quiet :=
  all_pause trivial (fun _ => trivial) trivial (fun _ => trivial) trivial maxTries cause

/-- The wait ends early only if the caller waits no longer. -/
lemma safe_pause (maxTries : ℕ) (cause : String) (w : World) :
    (pause o log ctx n maxTries cause).Safe (Act.CallsAre P)
      (Activity.Watched ctx fun _ _ => True) w := by
  refine ⟨Act.IsQuiet.callsAre trivial, ?_⟩
  refine (log.safe_log _ _ _).bind fun _ u _ => ?_
  refine (Activity.Safe.of_quiet (.wakeUp _) u).bind fun t v _ => ?_
  exact Activity.Safe.untilDone (fun _ => Act.IsQuiet.callsAre trivial) fun _ =>
    Activity.Safe.of_quiet (.sleepUntil t) v

lemma safe_resume {maxTries : ℕ} {cause : String} {rest : Activity Outcome}
    (hrest : ∀ v, rest.Safe (Act.CallsAre P) (Tells ctx) v) (w : World) :
    ((pause o log ctx n maxTries cause).bind (resume rest)).Safe (Act.CallsAre P) (Tells ctx)
      w := by
  refine (safe_pause maxTries cause w).bind fun x v hx => ?_
  cases x with
  | error reason => exact Tells.of_done hx
  | ok _ => exact hrest v

/-- **Every call of the next stage is a try of the caller's request, and the outcome tells the
truth.** -/
theorem safe_tries
    (hnext : ∀ n c q v, IsTry o ctx r n c q v →
      (next c q).Safe (Act.CallsAre P) (fun _ _ => True) v)
    (left n : ℕ) (w : World) :
    (tries o log next ctx r left n).Safe (Act.CallsAre P) (Tells ctx) w := by
  induction left generalizing n w with
  | zero =>
    rw [tries_zero]
    refine safe_round (hnext n) (fun outcome v hv => ?_) w
    cases cause? outcome with
    | none => exact hv
    | some cause =>
      refine (log.safe_log _ _ v).bind fun _ u hu => ?_
      obtain ⟨records, rfl⟩ := hu
      exact hv.of_records records
  | succ left ih =>
    rw [tries_succ]
    refine safe_round (hnext n) (fun outcome v hv => ?_) w
    cases cause? outcome with
    | none => exact hv
    | some cause => exact safe_resume (ih (n + 1)) v

/-- Sending a request through the retry policy, with the calls below it noted. -/
abbrev send (o : RetryOptions) (below : Callee) (log : Logger) (ctx : Context) (r : Request) :
    Activity Outcome :=
  (policy o).create below.stage log ctx r

end Retry

end QueueClient
