/-
# The exact run of retried requests

For a caller who waits without end, the retry stage is a loop over trials: calls of the stage
below, one after the other, each with what came of it in the time for a try (`Trial`).  The loop
goes on as long as what came of it may pass by itself and tries are left, and returns the outcome
of the last trial (`ExactRun`).  The one thing that can come in between is an instant that the clock
cannot name: the loop then breaks off in front of a trial or in the wait for it, with the trials
until then behind it and nothing to return (`CutShort`).

The runs of a loop are built from their ends by putting trials in front (`TrialRun.cons`); the loop
does the same, so that the induction is on the tries that are left.
-/
import QueueClient.Proofs.Retry.Cancellation
import QueueClient.Proofs.Retry.NormalForm

namespace QueueClient.Retry

open Activity

variable {o : RetryOptions} {log : Logger} {below : Callee} {ctx : Context} {r : Request}
  {n allowed : ℕ} {w v : World}

/-! ## Trials -/

/-- Whether another try may come to something better: after a response that says "not now" or an
error that holds one, and after a failure of the network that may pass by itself. -/
def isRetryable : Outcome → Bool
  | .ok r => [408, 429, 500, 502, 503, 504].contains r.status.code
  | .error (.service e) => [408, 429, 500, 502, 503, 504].contains e.response.status.code
  | .error (.transport e) =>
    [.timeout, .connectionRefused, .connectionReset, .connectionAborted, .dns, .connect,
      .unexpectedEof].contains e.fault
  | .error _ => false

/-- These are the outcomes for which there is a cause to try again. -/
lemma isSome_cause? (x : Outcome) : (cause? x).isSome = isRetryable x := by
  have hite : ∀ (b : Bool) (s : String), (if b = true then some s else none).isSome = b :=
    fun b s => by cases b <;> rfl
  have hfault : ∀ f : NetworkFault, f.isTransient =
      [.timeout, .connectionRefused, .connectionReset, .connectionAborted, .dns, .connect,
        .unexpectedEof].contains f := fun f => by cases f <;> rfl
  rcases x with e | r
  · rw [cause?, hite]
    cases e with
    | transport e => exact hfault e.fault
    | _ => rfl
  · exact hite _ _

lemma cause?_eq_none {x : Outcome} (h : isRetryable x = false) : cause? x = none := by
  rw [← isSome_cause?] at h
  exact Option.isNone_iff_eq_none.mp (Option.isSome_eq_false_iff.mp h)

lemma cause?_eq_some {x : Outcome} (h : isRetryable x = true) : ∃ cause, cause? x = some cause := by
  rw [← isSome_cause?] at h
  exact Option.isSome_iff_exists.mp h

/-- What a try is taken to have come to, by what its call has come to in time: a call that has not
ended, or that was cancelled, is a failure of the network that took too long. -/
def verdict (o : RetryOptions) (n : ℕ) : Option Outcome → Outcome
  | some (.ok r) => .ok r
  | some (.error (.cancelled _)) | none =>
    .error (.transport ⟨.timeout,
      "try " ++ toString n ++ " exceeded its " ++ o.tryTimeout.compact ++ " timeout", none⟩)
  | some (.error e) => .error e

/-- A call of the stage below, with what came of it in time and the world then. -/
structure Trial where
  /-- The call. -/
  call : Call
  /-- What came of it in the time for a try; nothing if it has not ended by then. -/
  answer : Option Outcome
  /-- The world when it ended or was given up. -/
  finish : World

namespace Trial

/-- What the trial counts as. -/
def outcome (o : RetryOptions) (t : Trial) : Outcome := verdict o t.call.context.attempt t.answer

/-- What the stage below does with the call. -/
def activity (below : Callee) (t : Trial) : Activity Outcome :=
  below.stage t.call.context t.call.request

/-- The instant at which the time for the trial is over. -/
def timer (o : RetryOptions) (t : Trial) : ℕ := t.call.world.now + o.tryTimeout.nanos

/-- The trial tells what comes of its call while the timer runs.  If the call ended in time, its
answer is its own result, in the world in which it comes to it; otherwise the timer fired, at the
first whole millisecond, and by itself the call would not have ended before.  The clock can name the
instant for which the timer is set. -/
structure Happens (o : RetryOptions) (below : Callee) (t : Trial) : Prop where
  run_eq : ((t.activity below).timeoutAt (t.timer o)).run t.call.world = (some t.answer, t.finish)
  own : ∀ x, t.answer = some x → (t.activity below).run t.call.world = (some x, t.finish)
  late : t.answer = none → t.finish.now = Instant.tick (t.timer o) ∧
    ∀ x u, (t.activity below).run t.call.world = (some x, u) → t.timer o ≤ u.now
  in_time : t.finish.now ≤ Instant.tick (t.timer o)
  named : t.timer o ≤ Instant.last

/-- All this is so once the run under the timer is as told. -/
lemma Happens.of_run {t : Trial} (ho : 0 < o.tryTimeout.nanos)
    (hnamed : t.timer o ≤ Instant.last)
    (h : ((t.activity below).timeoutAt (t.timer o)).run t.call.world =
      (some t.answer, t.finish)) : t.Happens o below := by
  have hcut := cutOff_of_run_timeoutAt h
  have hstart : t.call.world.now < t.timer o := by
    rw [timer]
    omega
  have hle : t.finish.now ≤ Instant.tick (t.timer o) :=
    hcut.now_le.trans (max_le (hstart.le.trans (Instant.le_tick _)) (le_refl _))
  refine ⟨h, hcut.run_eq, fun hnone => ⟨le_antisymm hle ?_, (hcut.late hnone).2⟩, hle, hnamed⟩
  have hlate := (hcut.late hnone).1
  -- the timer does not fire at the start, so the clock has gone on to a whole millisecond
  rcases (later_of_run h).ticks with heq | htick
  · omega
  · rw [← htick]
    exact Instant.tick_mono hlate

lemma Happens.later {t : Trial} (h : t.Happens o below) : t.call.world.Later t.finish :=
  later_of_run h.run_eq

end Trial

/-! ## Runs as lists of trials -/

/-- What an activity does in a world are trials, with numbers from `first` on, of which `allowed`
are allowed. -/
structure TrialRun (o : RetryOptions) (below : Callee) (allowed first : ℕ)
    (p : Activity Outcome) (w : World) (trials : List Trial) : Prop where
  /-- The calls of the run are those of the trials, in order. -/
  calls : p.calls w = trials.map (·.call)
  /-- The trials are told truly. -/
  happens : ∀ t ∈ trials, t.Happens o below
  /-- Their calls are numbered. -/
  attempts : trials.map (·.call.context.attempt) = List.range' first trials.length
  /-- No more trials than allowed are made. -/
  length_le : trials.length ≤ allowed
  /-- Only after a failure that may pass by itself is there another trial. -/
  retryable : ∀ t ∈ trials.dropLast, isRetryable (t.outcome o) = true
  /-- All trials begin after the run does. -/
  begins : ∀ t ∈ trials, w.Later t.call.world
  /-- Each trial is over when another begins. -/
  sequential : trials.Pairwise fun s t => s.finish.Later t.call.world

/-- The run comes to the outcome of its last trial, and no trial is missing. -/
structure ExactRun (o : RetryOptions) (below : Callee) (allowed first : ℕ)
    (p : Activity Outcome) (w : World) (trials : List Trial) : Prop
    extends TrialRun o below allowed first p w trials where
  /-- The run comes to the outcome of the last trial. -/
  result : (p.run w).1 = trials.getLast?.map (·.outcome o)
  /-- There is a trial. -/
  ne_nil : trials ≠ []
  /-- After a failure that may pass by itself there is another trial, if it is allowed. -/
  exhausted : ∀ t ∈ trials.getLast?, isRetryable (t.outcome o) = true → trials.length = allowed

/-- The run breaks off after some trials, in a world in which the clock cannot name an instant that
is to come; another trial would have followed. -/
structure CutShort (o : RetryOptions) (below : Callee) (allowed first : ℕ)
    (p : Activity Outcome) (w : World) (trials : List Trial) : Prop
    extends TrialRun o below allowed first p w trials where
  /-- It breaks off. -/
  aborts : p.aborts w = true
  /-- An instant has no name. -/
  outOfTime : OutOfTime o (p.run w).2
  /-- Without a trial, this is the end of the time for the first one. -/
  first_end : trials = [] → Instant.last < w.now + o.tryTimeout.nanos
  /-- Another trial is allowed. -/
  length_lt : trials.length < allowed
  /-- The last trial, too, came to a failure that may pass by itself. -/
  last_retryable : ∀ t ∈ trials.getLast?, isRetryable (t.outcome o) = true

namespace TrialRun

variable {p q : Activity Outcome} {t : Trial} {trials : List Trial}

/-- A run without calls. -/
lemma nil (h : p.calls w = []) : TrialRun o below allowed n p w [] where
  calls := h
  happens := by simp
  attempts := rfl
  length_le := Nat.zero_le allowed
  retryable := by simp
  begins := by simp
  sequential := List.Pairwise.nil

/-- A trial in front of a run. -/
lemma cons (ht : t.Happens o below) (hn : t.call.context.attempt = n)
    (hretry : trials ≠ [] → isRetryable (t.outcome o) = true)
    (hcalls : p.calls w = t.call :: q.calls v) (hbegin : w.Later t.call.world)
    (hend : t.finish.Later v) (h : TrialRun o below allowed (n + 1) q v trials) :
    TrialRun o below (allowed + 1) n p w (t :: trials) where
  calls := by rw [hcalls, h.calls, List.map_cons]
  happens := by
    rintro s (_ | ⟨_, hs⟩)
    · exact ht
    · exact h.happens s hs
  attempts := by
    rw [List.map_cons, h.attempts, List.length_cons, List.range'_succ, hn]
  length_le := Nat.succ_le_succ h.length_le
  retryable := by
    cases trials with
    | nil => simp
    | cons s rest =>
      rw [List.dropLast_cons_of_ne_nil (List.cons_ne_nil s rest)]
      rintro s' (_ | ⟨_, hs⟩)
      · exact hretry (List.cons_ne_nil s rest)
      · exact h.retryable s' hs
  begins := by
    rintro s (_ | ⟨_, hs⟩)
    · exact hbegin
    · exact hbegin.trans (ht.later.trans (hend.trans (h.begins s hs)))
  sequential := List.pairwise_cons.mpr ⟨fun s hs => hend.trans (h.begins s hs), h.sequential⟩

end TrialRun

section Ends

variable {p q : Activity Outcome} {t : Trial} {trials : List Trial}

/-- A run of one trial. -/
lemma ExactRun.last (ht : t.Happens o below) (hn : t.call.context.attempt = n)
    (hcalls : p.calls w = t.call :: q.calls t.finish) (hnone : q.calls t.finish = [])
    (hrun : (p.run w).1 = some (t.outcome o)) (hbegin : w.Later t.call.world)
    (hend : isRetryable (t.outcome o) = true → allowed = 0) :
    ExactRun o below (allowed + 1) n p w [t] where
  toTrialRun := .cons ht hn (absurd rfl) hcalls hbegin (World.Later.refl _) (.nil hnone)
  result := hrun
  ne_nil := List.cons_ne_nil t []
  exhausted := by simpa using hend

/-- A trial in front of a run that comes to an end. -/
lemma ExactRun.cons (ht : t.Happens o below) (hn : t.call.context.attempt = n)
    (hretry : isRetryable (t.outcome o) = true)
    (hcalls : p.calls w = t.call :: q.calls v) (hrun : p.run w = q.run v)
    (hbegin : w.Later t.call.world) (hend : t.finish.Later v)
    (h : ExactRun o below allowed (n + 1) q v trials) :
    ExactRun o below (allowed + 1) n p w (t :: trials) where
  toTrialRun := .cons ht hn (fun _ => hretry) hcalls hbegin hend h.toTrialRun
  result := by
    rw [hrun, h.result]
    cases trials with
    | nil => exact absurd rfl h.ne_nil
    | cons s rest => rw [List.getLast?_cons_cons]
  ne_nil := List.cons_ne_nil t trials
  exhausted := by
    intro s hs hsr
    have hs' : s ∈ trials.getLast? := by
      cases trials with
      | nil => exact absurd rfl h.ne_nil
      | cons s' rest => rwa [List.getLast?_cons_cons] at hs
    rw [List.length_cons, h.exhausted s hs' hsr]

/-- A run that breaks off in front of the first trial. -/
lemma CutShort.nil (hcalls : p.calls w = []) (haborts : p.aborts w = true)
    (hworld : OutOfTime o (p.run w).2) (hlast : Instant.last < w.now + o.tryTimeout.nanos) :
    CutShort o below (allowed + 1) n p w [] where
  toTrialRun := .nil hcalls
  aborts := haborts
  outOfTime := hworld
  first_end _ := hlast
  length_lt := Nat.succ_pos allowed
  last_retryable := by simp

/-- A trial, and then the run breaks off: at once or after more trials. -/
lemma CutShort.cons (ht : t.Happens o below) (hn : t.call.context.attempt = n)
    (hretry : isRetryable (t.outcome o) = true)
    (hcalls : p.calls w = t.call :: q.calls v) (haborts : p.aborts w = true)
    (hworld : OutOfTime o (p.run w).2) (hbegin : w.Later t.call.world) (hend : t.finish.Later v)
    (hlt : trials.length < allowed)
    (hlast : ∀ s ∈ trials.getLast?, isRetryable (s.outcome o) = true)
    (h : TrialRun o below allowed (n + 1) q v trials) :
    CutShort o below (allowed + 1) n p w (t :: trials) where
  toTrialRun := .cons ht hn (fun _ => hretry) hcalls hbegin hend h
  aborts := haborts
  outOfTime := hworld
  first_end hnil := nomatch hnil
  length_lt := Nat.succ_lt_succ hlt
  last_retryable := by
    cases trials with
    | nil => simpa using hretry
    | cons s rest =>
      rw [List.getLast?_cons_cons]
      exact hlast

end Ends

/-! ## One try -/

/-- The context of a caller who waits without end is not done. -/
lemma reasonIn_eq_none (hd : ctx.deadline = none) (hlive : v.forest.isCancelled ctx.token = false)
    (hwv : w.Later v) : ctx.reasonIn w = none := by
  rw [Context.reason?_eq_none_iff, Context.isOverdue_eq_false_iff, hd]
  exact ⟨hwv.not_isCancelled hlive, fun d h => by cases h⟩

lemma quiet_settle (answer : Option Outcome) : (settle o ctx n answer).Quiet := by
  rw [settle]
  split
  · trivial
  · exact ⟨trivial, fun x => by cases x <;> trivial⟩

/-- What comes of an answer while the caller waits. -/
lemma run_settle (answer : Option Outcome) (hw : ctx.reasonIn w = none) :
    (settle o ctx n answer).run w = (some (verdict o n answer), w) := by
  rcases answer with _ | e | response
  · simp only [settle, Option.getD_none, run_act, World.perform_reason, hw]
    rfl
  · simp only [settle, Option.getD_some, run_act, World.perform_reason, hw]
    cases e <;> rfl
  · rfl

/-- The copy of a request is made without a call, and at most an id is made up. -/
lemma run_renew (n : ℕ) (r : Request) (w : World) :
    ∃ q idsMade, (renew n r).run w = (some q, { w with idsMade }) ∧ (renew n r).calls w = [] ∧
      IsCopy n r q := by
  rw [renew]
  split
  · rename_i h
    exact ⟨_, _, rfl, rfl, Or.inr ⟨h.1, h.2, _, rfl⟩⟩
  · exact ⟨r, w.idsMade, rfl, rfl, Or.inl rfl⟩

/-- A guarded call is one call. -/
lemma calls_guarded {c : Context} {q : Request} {t : ℕ} (hw : ctx.reasonIn w = none) :
    (((below.stage c q).timeoutAt t).untilDone ctx).calls w = [⟨c, q, w⟩] := by
  rw [untilDone, calls_endings, hw]
  show (Activity.act (.arrive c q) fun m =>
    ((below.answer m c q).timeoutAt t).watch ctx).calls w = [⟨c, q, w⟩]
  rw [calls_arrive, (((below.quiet _ c q).timeoutAt t).watch ctx).calls_eq_nil]

/-- A guarded call comes to what the time for it lets it come to. -/
lemma run_guarded {c : Context} {q : Request} {t : ℕ} {x : Outcome} (hd : ctx.deadline = none)
    (hrun : ((((below.stage c q).timeoutAt t).untilDone ctx).bind (conclude o ctx n)).run w =
      (some x, v))
    (hlive : v.forest.isCancelled ctx.token = false) :
    ∃ answer, ((below.stage c q).timeoutAt t).run w = (some answer, v) ∧
      verdict o n answer = x ∧
      ((((below.stage c q).timeoutAt t).untilDone ctx).bind (conclude o ctx n)).calls w =
        [⟨c, q, w⟩] := by
  rcases hy : (((below.stage c q).timeoutAt t).untilDone ctx).run w with ⟨_ | y, u⟩
  · rw [run_bind_of_none hy] at hrun
    exact nomatch (Prod.mk.inj hrun).1
  rw [run_bind_of_some hy] at hrun
  have huv : u.Later v := later_of_run hrun
  -- the caller still waits when the guard ends, so it is not the caller that ended it
  have hu : ctx.reasonIn u = none := reasonIn_eq_none hd hlive huv
  obtain ⟨answer, rfl, hanswer⟩ := run_of_run_untilDone hy hu
  rw [conclude, run_settle answer hu, Prod.mk.injEq, Option.some.injEq] at hrun
  obtain ⟨rfl, rfl⟩ := hrun
  refine ⟨answer, hanswer, rfl, ?_⟩
  have hw : ctx.reasonIn w = none := reasonIn_eq_none hd hlive (later_of_run hy)
  rw [calls_bind hy, calls_guarded hw, conclude, (quiet_settle answer).calls_eq_nil,
    List.append_nil]

/-- Once it has its copy of the request, a try for a caller who waits without end is a trial. -/
lemma run_proceed (ho : 0 < o.tryTimeout.nanos) (hd : ctx.deadline = none) {q : Request}
    {x : Outcome} (hrun : (proceed o below.stage ctx n q).run w = (some x, v))
    (hlive : v.forest.isCancelled ctx.token = false) :
    ∃ t : Trial, t.Happens o below ∧ t.call.context.attempt = n ∧ t.outcome o = x ∧
      (proceed o below.stage ctx n q).calls w = [t.call] ∧ w.Later t.call.world ∧
      t.finish = v := by
  have hend : tryEnd o ctx w.now = w.now + o.tryTimeout.nanos := by
    rw [tryEnd, hd, earliest]
  have hcalls : (proceed o below.stage ctx n q).calls w =
      (tryFrom o below.stage ctx n q w.now).calls w := calls_act (a := .now) trivial _ w
  have hrun : (tryFrom o below.stage ctx n q w.now).run w = (some x, v) := hrun
  rcases Nat.lt_or_ge Instant.last (w.now + o.tryTimeout.nanos) with hlast | hnamed
  · rw [tryFrom_of_lt hlast] at hrun
    cases (Prod.mk.inj hrun).1
  rw [tryFrom_of_le hnamed, tryUntil] at hrun hcalls
  rw [run_act] at hrun
  rw [calls_act (a := .branch ctx.token) trivial] at hcalls
  obtain ⟨answer, hanswer, hx, hguarded⟩ := run_guarded hd hrun hlive
  -- the call as the stage below sees it
  let call : Call :=
    ⟨ctx.deriveFor (w.perform (.branch ctx.token)).1 n (tryEnd o ctx w.now),
      { q with url := q.url.setServerTimeout (Instant.since (tryEnd o ctx w.now) w.now) },
      (w.perform (.branch ctx.token)).2⟩
  refine ⟨⟨call, answer, v⟩, Trial.Happens.of_run ho ?_ ?_, rfl, hx, hcalls.trans hguarded,
    World.later_perform w _, rfl⟩
  · rw [Trial.timer, World.perform_now]
    exact hnamed
  · rw [Trial.timer, World.perform_now, ← hend]
    exact hanswer

/-- A try for a caller who waits without end is a trial. -/
lemma run_attempt (ho : 0 < o.tryTimeout.nanos) (hbody : ∀ s, r.body.canReplay s = true)
    (hd : ctx.deadline = none) {x : Outcome}
    (hrun : (attempt o below.stage ctx n r).run w = (some x, v))
    (hlive : v.forest.isCancelled ctx.token = false) :
    ∃ t : Trial, t.Happens o below ∧ t.call.context.attempt = n ∧ t.outcome o = x ∧
      (attempt o below.stage ctx n r).calls w = [t.call] ∧ w.Later t.call.world ∧
      t.finish = v := by
  have hrewind : (w.perform (.rewind r n)).1 = .ok r := if_pos (hbody w.streams)
  obtain ⟨q, idsMade, hq, hcalls, -⟩ := run_renew n r (w.perform (.rewind r n)).2
  rw [attempt_eq, run_act, hrewind, run_bind_of_some hq] at hrun
  rw [attempt_eq, calls_act (a := .rewind r n) trivial, hrewind, calls_bind hq, hcalls,
    List.nil_append]
  obtain ⟨t, ht, hn, hx, htcalls, hbegin, hfinish⟩ := run_proceed ho hd hrun hlive
  exact ⟨t, ht, hn, hx, htcalls, (later_of_run hq).trans hbegin, hfinish⟩

/-- A try that breaks off, although nothing below does, makes no call. -/
lemma calls_attempt_of_aborts (hbelow : ∀ c q, (below.stage c q).Unbroken)
    (hbody : ∀ s, r.body.canReplay s = true)
    (h : (attempt o below.stage ctx n r).aborts w = true) :
    Instant.last < w.now + o.tryTimeout.nanos ∧ (attempt o below.stage ctx n r).calls w = [] := by
  have hrewind : (w.perform (.rewind r n)).1 = .ok r := if_pos (hbody w.streams)
  obtain ⟨q, idsMade, hq, hcalls, -⟩ := run_renew n r (w.perform (.rewind r n)).2
  rw [attempt_eq, aborts_act, hrewind, aborts_bind_of_some hq] at h
  rw [attempt_eq, calls_act (a := .rewind r n) trivial, hrewind, calls_bind hq, hcalls,
    List.nil_append, proceed, calls_act (a := .now) trivial]
  have h : (tryFrom o below.stage ctx n q w.now).aborts { w with idsMade } = true := h
  show _ ∧ (tryFrom o below.stage ctx n q w.now).calls { w with idsMade } = []
  rcases Nat.lt_or_ge Instant.last (w.now + o.tryTimeout.nanos) with hlast | hnamed
  · rw [tryFrom_of_lt hlast]
    exact ⟨hlast, rfl⟩
  · have hunbroken : (tryUntil o below.stage ctx n q w.now (tryEnd o ctx w.now)).Unbroken :=
      unbroken_tryUntil hbelow n q _ _
    rw [tryFrom_of_le hnamed, hunbroken.aborts_eq_false] at h
    exact nomatch h

/-! ## The loop -/

/-- The pause between two tries, for a caller who waits without end: it breaks off, or it is over
some time, and what comes next is all that comes. -/
lemma pause_cases {maxTries : ℕ} {cause : String} {rest : Activity Outcome}
    (hd : ctx.deadline = none)
    (hlive : (((pause o log ctx n maxTries cause).bind (resume rest)).run w).2.forest.isCancelled
      ctx.token = false) :
    (((pause o log ctx n maxTries cause).bind (resume rest)).aborts w = true ∧
      ((pause o log ctx n maxTries cause).bind (resume rest)).calls w = []) ∨
    ∃ u, w.Later u ∧
      ((pause o log ctx n maxTries cause).bind (resume rest)).run w = rest.run u ∧
      ((pause o log ctx n maxTries cause).bind (resume rest)).calls w = rest.calls u ∧
      ((pause o log ctx n maxTries cause).bind (resume rest)).aborts w = rest.aborts u := by
  have hquiet := (quiet_pause maxTries cause : (pause o log ctx n maxTries cause).Quiet)
  rcases hpause : (pause o log ctx n maxTries cause).run w with ⟨_ | y, u⟩
  · left
    have hends := (timed_pause n maxTries cause :
      (pause o log ctx n maxTries cause).Timed).run_ends w
    rw [hpause] at hends
    rw [aborts_bind_of_none hpause, calls_bind_of_none hpause, hquiet.calls_eq_nil]
    exact ⟨hends.resolve_right (fun ⟨_, _, h⟩ => nomatch h), rfl⟩
  · right
    rw [run_bind_of_some hpause] at hlive
    have hu : ctx.reasonIn u = none := reasonIn_eq_none hd hlive (later_run _ _)
    have hwatched : Watched ctx (fun _ _ => True) y u :=
      (safe_pause (P := fun _ _ _ => True) maxTries cause w).result hpause
    cases y with
    | error reason => exact nomatch hwatched.symm.trans hu
    | ok _ =>
      refine ⟨u, later_of_run hpause, ?_, ?_, ?_⟩
      · rw [run_bind_of_some hpause, resume]
      · rw [calls_bind hpause, hquiet.calls_eq_nil, List.nil_append, resume]
      · rw [aborts_bind_of_some hpause, resume]

/-- A round of the loop, for a caller who waits without end: it breaks off, or there is a trial, and
what becomes of it. -/
lemma round_cases {f : Outcome → Activity Outcome} {p : Activity Outcome}
    (hp : p = .act (.reason ctx) fun
      | some reason => .done (.error (.cancelled reason))
      | none => (attempt o below.stage ctx n r).bind f)
    (ho : 0 < o.tryTimeout.nanos) (hbelow : ∀ c q, (below.stage c q).Unbroken)
    (hbody : ∀ s, r.body.canReplay s = true) (hd : ctx.deadline = none)
    (hlive : (p.run w).2.forest.isCancelled ctx.token = false) :
    (Instant.last < w.now + o.tryTimeout.nanos ∧ p.aborts w = true ∧ p.calls w = []) ∨
    ∃ t : Trial, t.Happens o below ∧ t.call.context.attempt = n ∧ w.Later t.call.world ∧
      p.run w = (f (t.outcome o)).run t.finish ∧
      p.calls w = t.call :: (f (t.outcome o)).calls t.finish ∧
      p.aborts w = (f (t.outcome o)).aborts t.finish := by
  have hw : ctx.reasonIn w = none := reasonIn_eq_none hd hlive (later_run p w)
  have hpw : p.run w = ((attempt o below.stage ctx n r).bind f).run w := by
    rw [hp, run_act, World.perform_reason, hw]
  have hcalls : p.calls w = ((attempt o below.stage ctx n r).bind f).calls w := by
    rw [hp, calls_reason, hw]
  have haborts : p.aborts w = ((attempt o below.stage ctx n r).bind f).aborts w := by
    rw [hp, aborts_act, World.perform_reason, hw]
  rw [hpw] at hlive
  rw [hpw, hcalls, haborts]
  rcases hattempt : (attempt o below.stage ctx n r).run w with ⟨_ | outcome, u⟩
  · left
    have hends := (timed_attempt n : (attempt o below.stage ctx n r).Timed).run_ends w
    rw [hattempt] at hends
    have hbroken := hends.resolve_right (fun ⟨_, _, h⟩ => nomatch h)
    obtain ⟨hlast, hnil⟩ := calls_attempt_of_aborts hbelow hbody hbroken
    rw [aborts_bind_of_none hattempt, calls_bind_of_none hattempt]
    exact ⟨hlast, hbroken, hnil⟩
  · right
    rw [run_bind_of_some hattempt] at hlive
    obtain ⟨t, ht, hn, rfl, htcalls, hbegin, rfl⟩ :=
      run_attempt ho hbody hd hattempt ((later_run _ _).not_isCancelled hlive)
    refine ⟨t, ht, hn, hbegin, ?_, ?_, ?_⟩
    · rw [run_bind_of_some hattempt]
    · rw [calls_bind hattempt, htcalls, List.singleton_append]
    · rw [aborts_bind_of_some hattempt]

/-- **The loop over tries is a loop over trials**, to its end or until it breaks off. -/
theorem exactRun_tries (ho : 0 < o.tryTimeout.nanos) (hbelow : ∀ c q, (below.stage c q).Unbroken)
    (hbody : ∀ s, r.body.canReplay s = true) (hd : ctx.deadline = none) (left n : ℕ) (w : World)
    (hlive : ((tries o log below.stage ctx r left n).run w).2.forest.isCancelled ctx.token =
      false) :
    ∃ trials, ExactRun o below (left + 1) n (tries o log below.stage ctx r left n) w trials ∨
      CutShort o below (left + 1) n (tries o log below.stage ctx r left n) w trials := by
  have houtOfTime : BreaksOffIn (OutOfTime o) (tries o log below.stage ctx r left n) w :=
    breaksOff_tries hbelow left n w
  induction left generalizing n w with
  | zero =>
    rcases round_cases (tries_zero o log below.stage ctx r n) ho hbelow hbody hd hlive with
      ⟨hlast, haborts, hnil⟩ | ⟨t, ht, hn, hbegin, hrest, hcalls, -⟩
    · exact ⟨[], Or.inr (.nil hnil haborts (houtOfTime.of_aborts haborts) hlast)⟩
    cases hr : isRetryable (t.outcome o) with
    | false =>
      rw [cause?_eq_none hr] at hrest hcalls
      exact ⟨[t], Or.inl (.last ht hn hcalls rfl (by rw [hrest, run_done]) hbegin
        fun h => by simp [hr] at h)⟩
    | true =>
      obtain ⟨cause, hcause⟩ := cause?_eq_some hr
      simp only [hcause] at hrest hcalls
      -- no try is left: there is an entry in the log, and the outcome stands
      obtain ⟨records, hlog⟩ := log.run_log .info (gaveUpText n cause) t.finish
      refine ⟨[t], Or.inl (.last ht hn hcalls ?_ ?_ hbegin fun _ => rfl)⟩
      · rw [calls_bind hlog, (Quiet.log log .info _).calls_eq_nil, calls_done, List.append_nil]
      · rw [hrest, run_bind_of_some hlog, run_done]
  | succ left ih =>
    rcases round_cases (tries_succ o log below.stage ctx r left n) ho hbelow hbody hd hlive with
      ⟨hlast, haborts, hnil⟩ | ⟨t, ht, hn, hbegin, hrest, hcalls, haborts⟩
    · exact ⟨[], Or.inr (.nil hnil haborts (houtOfTime.of_aborts haborts) hlast)⟩
    cases hr : isRetryable (t.outcome o) with
    | false =>
      rw [cause?_eq_none hr] at hrest hcalls
      exact ⟨[t], Or.inl (.last ht hn hcalls rfl (by rw [hrest, run_done]) hbegin
        fun h => by simp [hr] at h)⟩
    | true =>
      obtain ⟨cause, hcause⟩ := cause?_eq_some hr
      simp only [hcause] at hrest hcalls haborts
      rw [hrest] at hlive
      rcases pause_cases hd hlive with ⟨hbroken, hnil⟩ | ⟨u, hu, hbetween, hcallsbetween, hbroken⟩
      -- the wait for the next trial has no end that the clock can name
      · rw [hbroken] at haborts
        rw [hnil] at hcalls
        have hnone : TrialRun o below (left + 1) (n + 1) .abort t.finish [] := .nil rfl
        exact ⟨[t], Or.inr (.cons (q := .abort) ht hn hr hcalls haborts
          (houtOfTime.of_aborts haborts) hbegin (World.Later.refl _) (Nat.succ_pos left) (by simp)
          hnone)⟩
      -- the rest of the loop begins after the wait, and the caller waits until its end
      · rw [hbetween] at hlive hrest
        rw [hcallsbetween] at hcalls
        obtain ⟨trials, htrials | htrials⟩ := ih (n + 1) u hlive (breaksOff_tries hbelow left _ u)
        · exact ⟨t :: trials, Or.inl (.cons ht hn hr hcalls hrest hbegin hu htrials)⟩
        · have haborts := (haborts.trans hbroken).trans htrials.aborts
          exact ⟨t :: trials, Or.inr (.cons ht hn hr hcalls haborts (houtOfTime.of_aborts haborts)
            hbegin hu htrials.length_lt htrials.last_retryable htrials.toTrialRun)⟩

/-! ## The policy -/

lemma tryTimeout_withDefaults_pos (o : RetryOptions) : 0 < o.withDefaults.tryTimeout.nanos :=
  Nat.pos_of_ne_zero fun h => o.isNormal_withDefaults.tryTimeout_ne (Duration.ext h)

lemma maxTries_withDefaults_pos (o : RetryOptions) : 0 < o.withDefaults.maxTries.toNat :=
  UInt32.le_iff_toNat_le.mp o.isNormal_withDefaults.one_le_maxTries

/-- **What the retry policy does for a caller who waits without end.**  Whatever is below and
whatever chance draws, it makes one trial after the other, with the numbers from 1 on, goes on
after those and only those that may be tried again until there are as many as the options allow,
and returns the outcome of the last one, unless it is cut short by an instant that the clock cannot
name. -/
theorem policy_exact_run (o : RetryOptions) (below : Callee) (log : Logger) (ctx : Context)
    (r : Request) (w : World) (hbelow : ∀ n c q, (below.answer n c q).Unbroken)
    (hbody : ∀ s, r.body.canReplay s = true) (hdeadline : ctx.deadline = none)
    (hlive : ((send o below log ctx r).run w).2.forest.isCancelled ctx.token = false) :
    ∃ trials,
      ExactRun o.withDefaults below o.withDefaults.maxTries.toNat 1
        (send o below log ctx r) w trials ∨
      CutShort o.withDefaults below o.withDefaults.maxTries.toNat 1
        (send o below log ctx r) w trials := by
  have hallowed : max o.withDefaults.maxTries.toNat 1 - 1 + 1 = o.withDefaults.maxTries.toNat := by
    have := maxTries_withDefaults_pos o
    omega
  have hrun := exactRun_tries (tryTimeout_withDefaults_pos o) (fun c q m => hbelow m c q) hbody
    hdeadline (max o.withDefaults.maxTries.toNat 1 - 1) 1 w hlive
  rwa [hallowed] at hrun

/-- The status of a service that has no time. -/
def busyStatus : Status := ⟨503, by decide⟩

/-- A stage that has no time for the first call. -/
def busyOnce : Callee where
  answer n _ r := .done (.ok (.new (if n = 0 then busyStatus else .ok) r))
  quiet _ _ _ := trivial

/-- A request to that stage in a fresh world, with some time for each try. -/
def sendBusily (tryTimeout : Duration) : Activity Outcome :=
  send ⟨.fixed, 3, tryTimeout, .ofMillis 5, .ofSecs 1⟩ busyOnce ⟨.discard, none⟩ (.ofToken ⟨[0]⟩)
    (.new "GET" default)

/-- With a second for each try the run comes to its end. -/
theorem policy_exact_run_busyOnce :
    ((sendBusily (.ofSecs 1)).run (.start [])).2.forest.isCancelled ⟨[0]⟩ = false ∧
    ∃ trials,
      ExactRun (RetryOptions.withDefaults ⟨.fixed, 3, .ofSecs 1, .ofMillis 5, .ofSecs 1⟩)
        busyOnce 3 1 (sendBusily (.ofSecs 1)) (.start []) trials := by
  have hlive : ((sendBusily (.ofSecs 1)).run (.start [])).2.forest.isCancelled ⟨[0]⟩ = false := by
    decide +kernel
  have hends : (sendBusily (.ofSecs 1)).aborts (.start []) = false := by
    decide +kernel
  obtain ⟨trials, hexact | hshort⟩ := policy_exact_run
    ⟨.fixed, 3, .ofSecs 1, .ofMillis 5, .ofSecs 1⟩ busyOnce ⟨.discard, none⟩ (.ofToken ⟨[0]⟩)
    (.new "GET" default) (.start []) (fun _ _ _ => trivial) (fun _ => rfl) rfl hlive
  · exact ⟨hlive, trials, hexact⟩
  · exact nomatch hshort.aborts.symm.trans hends

/-- With more time for each try than the clock can count there is no call and no outcome, although
the caller waits and the stage below would answer at once. -/
theorem exists_run_without_result :
    (sendBusily (.ofSecs (2 ^ 63))).calls (.start []) = [] ∧
    ((sendBusily (.ofSecs (2 ^ 63))).run (.start [])).1 = none ∧
    ((sendBusily (.ofSecs (2 ^ 63))).run (.start [])).2.forest.isCancelled ⟨[0]⟩ = false ∧
    ¬ ∃ trials,
      ExactRun (RetryOptions.withDefaults ⟨.fixed, 3, .ofSecs (2 ^ 63), .ofMillis 5, .ofSecs 1⟩)
        busyOnce 3 1 (sendBusily (.ofSecs (2 ^ 63))) (.start []) trials := by
  have hnone : ((sendBusily (.ofSecs (2 ^ 63))).run (.start [])).1 = none := by
    decide +kernel
  refine ⟨by decide +kernel, hnone, by decide +kernel, fun ⟨trials, htrials⟩ => ?_⟩
  have hresult := htrials.result
  rw [hnone, eq_comm, Option.map_eq_none_iff, List.getLast?_eq_none_iff] at hresult
  exact htrials.ne_nil hresult

end QueueClient.Retry
