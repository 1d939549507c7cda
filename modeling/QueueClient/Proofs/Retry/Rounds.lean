/-
# The rounds of the loop

For every caller, whether the wait is limited, cancelled or without end, and for every request, the
loop over tries goes through rounds: in each there is one try, and what comes of it decides whether
there is another.  A history of the loop (`History`) tells of these rounds, and each of its
constructors is one way in which the loop ends or goes on.  Every run of the loop has a history
(`history_tries`), and whatever is seen of the run is seen of the tries of its rounds and of the
entries between them.

Nothing is said here about the stage below: it may be any stage, and the rounds hold what it comes
to in the worlds of the run.
-/
import QueueClient.Proofs.Activity.Seen
import QueueClient.Proofs.Retry.ExactRun

namespace QueueClient.Retry

open Activity

variable {o : RetryOptions} {log : Logger} {next : Stage} {ctx : Context} {r : Request}
  {n maxTries : ℕ} {x : Option Outcome} {u v w : World}

/-- A round: a try with its number, the worlds in which it begins and ends, and what it comes to. -/
structure Round where
  /-- The number of the try. -/
  number : ℕ
  /-- The world in which it begins. -/
  start : World
  /-- What it comes to; nothing if it breaks off. -/
  outcome : Option Outcome
  /-- The world in which it ends. -/
  finish : World

namespace Round

/-- The round is that of a try of a request for a caller who still waits when it begins. -/
structure IsOf (o : RetryOptions) (next : Stage) (ctx : Context) (r : Request) (t : Round) :
    Prop where
  live : ctx.reasonIn t.start = none
  run_eq : (attempt o next ctx t.number r).run t.start = (t.outcome, t.finish)

/-- What is seen of the try. -/
def seen {γ : Type} (f : Event → List γ) (o : RetryOptions) (next : Stage) (ctx : Context)
    (r : Request) (t : Round) : List γ :=
  (attempt o next ctx t.number r).seen f t.start

/-- The wait before another try. -/
def delay (o : RetryOptions) (t : Round) : Duration :=
  o.delay t.number (RetryOptions.jitter t.finish.nextDraw)

/-- The entry about the round: after a failure that may pass by itself, either that there will be
another try or that there will be none. -/
def note (o : RetryOptions) (maxTries : ℕ) (t : Round) : Option String :=
  (t.outcome.bind cause?).map fun cause =>
    if t.number < maxTries then retryingText t.number maxTries cause (t.delay o)
    else gaveUpText t.number cause

end Round

/-- The loop over tries, from the try with a number on, goes through rounds and comes to an outcome
in a world, or breaks off there. -/
inductive History (o : RetryOptions) (log : Logger) (next : Stage) (ctx : Context) (r : Request)
    (maxTries : ℕ) : ℕ → World → List Round → Option Outcome → World → Prop where
  /-- The caller waits no longer. -/
  | cancelled {n : ℕ} {w : World} {reason : CancelReason} (done : ctx.reasonIn w = some reason) :
    History o log next ctx r maxTries n w [] (some (.error (.cancelled reason))) w
  /-- The try comes to something that another would not change, or breaks off. -/
  | ended {t : Round} (round : t.IsOf o next ctx r) (final : t.outcome.bind cause? = none) :
    History o log next ctx r maxTries t.number t.start [t] t.outcome t.finish
  /-- The try was the last. -/
  | gaveUp {t : Round} {cause : String} {v : World} (round : t.IsOf o next ctx r)
    (why : t.outcome.bind cause? = some cause) (last : maxTries ≤ t.number)
    (entry : (log.log .info (gaveUpText t.number cause)).run t.finish = (some (), v)) :
    History o log next ctx r maxTries t.number t.start [t] t.outcome v
  /-- The caller stops to wait before there is another try. -/
  | stopped {t : Round} {cause : String} {reason : CancelReason} {v : World}
    (round : t.IsOf o next ctx r) (why : t.outcome.bind cause? = some cause)
    (allowed : t.number < maxTries)
    (paused : (pause o log ctx t.number maxTries cause).run t.finish = (some (.error reason), v)) :
    History o log next ctx r maxTries t.number t.start [t] (some (.error (.cancelled reason))) v
  /-- The pause before another try breaks off. -/
  | brokeOff {t : Round} {cause : String} {v : World}
    (round : t.IsOf o next ctx r) (why : t.outcome.bind cause? = some cause)
    (allowed : t.number < maxTries)
    (paused : (pause o log ctx t.number maxTries cause).run t.finish = (none, v)) :
    History o log next ctx r maxTries t.number t.start [t] none v
  /-- There is another try. -/
  | again {t : Round} {cause : String} {u : World} {rounds : List Round} {x : Option Outcome}
    {v : World} (round : t.IsOf o next ctx r) (why : t.outcome.bind cause? = some cause)
    (allowed : t.number < maxTries)
    (paused : (pause o log ctx t.number maxTries cause).run t.finish = (some (.ok ()), u))
    (rest : History o log next ctx r maxTries (t.number + 1) u rounds x v) :
    History o log next ctx r maxTries t.number t.start (t :: rounds) x v

/-! ## What a try does -/

/-- A call of the stage below, for as long as the caller and the time for the try allow, and what
becomes of it. -/
def guarded (o : RetryOptions) (next : Stage) (ctx : Context) (n : ℕ) (call : Call) :
    Activity Outcome :=
  (((next call.context call.request).timeoutAt (tryEnd o ctx call.world.now)).untilDone ctx).bind
    (conclude o ctx n)

/-- The call that a try makes with its copy of the request in a world: its context has a token of
its own and ends with the time for the try, and the service is told how much time there is. -/
def tryCall (o : RetryOptions) (ctx : Context) (n : ℕ) (q : Request) (u : World) : Call :=
  ⟨ctx.deriveFor (u.perform (.branch ctx.token)).1 n (tryEnd o ctx u.now),
    { q with url := q.url.setServerTimeout (Instant.since (tryEnd o ctx u.now) u.now) },
    (u.perform (.branch ctx.token)).2⟩

/-- The call that a try that begins in a world makes of the stage below. -/
structure Enters (o : RetryOptions) (ctx : Context) (r : Request) (n : ℕ) (w : World)
    (call : Call) : Prop where
  /-- It is a try of the request. -/
  isTry : IsTry o ctx r n call.context call.request call.world
  /-- It is made with the copy that the try has got. -/
  made : ∃ q u, (renew n r).run w = (some q, u) ∧ call = tryCall o ctx n q u

lemma Enters.streams {call : Call} (h : Enters o ctx r n w call) :
    call.world.streams = w.streams := by
  obtain ⟨q, u, hq, rfl⟩ := h.made
  obtain ⟨q', idsMade, hq', -⟩ := run_renew n r w
  rw [hq', Prod.mk.injEq] at hq
  show u.streams = w.streams
  rw [← hq.2]

lemma Enters.deadline {call : Call} (h : Enters o ctx r n w call) :
    call.context.deadline = some (tryEnd o ctx call.world.now) := by
  obtain ⟨token, hcontext⟩ := h.isTry.context
  rw [hcontext]
  show some (earliest ctx.deadline (earliest ctx.deadline _)) = _
  rw [earliest_earliest]
  rfl

lemma Enters.attempt_eq {call : Call} (h : Enters o ctx r n w call) :
    call.context.attempt = n := by
  obtain ⟨token, hcontext⟩ := h.isTry.context
  rw [hcontext]
  rfl

/-- A try for which there is a copy of the request, from the moment at which it has the copy. -/
lemma exists_tryFrom (o : RetryOptions) (next : Stage) (ctx : Context) (n : ℕ)
    (hreplay : r.body.canReplay w.streams = true) :
    ∃ q idsMade, (renew n r).run w = (some q, { w with idsMade }) ∧ IsCopy n r q ∧
      (attempt o next ctx n r).run w = (tryFrom o next ctx n q w.now).run { w with idsMade } ∧
      ∀ {γ : Type} (f : Event → List γ), Overlooks f Act.IsRoutine →
        (attempt o next ctx n r).seen f w =
          (tryFrom o next ctx n q w.now).seen f { w with idsMade } := by
  have hrewind : (w.perform (.rewind r n)).1 = .ok r := if_pos hreplay
  obtain ⟨q, idsMade, hq, -, hcopy⟩ := run_renew n r w
  refine ⟨q, idsMade, hq, hcopy, ?_, fun f hf => ?_⟩
  · rw [attempt_eq, run_act, hrewind]
    show ((renew n r).bind (proceed o next ctx n)).run w = _
    rw [run_bind_of_some hq]
    rfl
  · have hrenew : (renew n r).seen f w = [] :=
      (all_renew (P := Act.IsRoutine) trivial n r).seen_eq_nil hf w
    rw [attempt_eq, hf.seen_act (a := .rewind r n) trivial, hrewind]
    show ((renew n r).bind (proceed o next ctx n)).seen f w = _
    rw [seen_bind hq, hrenew, List.nil_append, proceed, hf.seen_act (a := .now) trivial]
    rfl

/-- **A try is one guarded call**, if there is a copy of the request for it and the clock can name
its end. -/
theorem exists_enters (o : RetryOptions) (next : Stage) (n : ℕ) (hlive : ctx.reasonIn w = none)
    (hreplay : r.body.canReplay w.streams = true)
    (hnamed : w.now + o.tryTimeout.nanos ≤ Instant.last) :
    ∃ call, Enters o ctx r n w call ∧
      (attempt o next ctx n r).run w = (guarded o next ctx n call).run call.world ∧
      ∀ {γ : Type} (f : Event → List γ), Overlooks f Act.IsRoutine →
        (attempt o next ctx n r).seen f w = (guarded o next ctx n call).seen f call.world := by
  obtain ⟨q, idsMade, hq, hcopy, hrun, hseen⟩ := exists_tryFrom o next ctx n hreplay
  set call : Call := tryCall o ctx n q { w with idsMade } with hcall
  have htry : IsTry o ctx r n call.context call.request call.world :=
    ⟨hlive, hnamed, ⟨_, rfl⟩, q, hcopy, rfl⟩
  refine ⟨call, ⟨htry, q, _, hq, rfl⟩, ?_, fun f hf => ?_⟩
  · rw [hrun, tryFrom_of_le hnamed]
    rfl
  · rw [hseen f hf, tryFrom_of_le hnamed, tryUntil, hf.seen_act (a := .branch ctx.token) trivial]
    rfl

/-- Where the clock cannot name the end of a try, it breaks off, and nothing is seen of it. -/
lemma attempt_of_lt (o : RetryOptions) (next : Stage) (ctx : Context) (n : ℕ)
    (hreplay : r.body.canReplay w.streams = true)
    (hlast : Instant.last < w.now + o.tryTimeout.nanos) :
    (∃ idsMade, (attempt o next ctx n r).run w = (none, { w with idsMade })) ∧
      ∀ {γ : Type} (f : Event → List γ), Overlooks f Act.IsRoutine →
        (attempt o next ctx n r).seen f w = [] := by
  obtain ⟨q, idsMade, -, -, hrun, hseen⟩ := exists_tryFrom o next ctx n hreplay
  rw [tryFrom_of_lt hlast] at hrun
  refine ⟨⟨idsMade, hrun⟩, fun f hf => ?_⟩
  rw [hseen f hf, tryFrom_of_lt hlast]
  rfl

/-- What is seen of a guarded call, made while the caller waits, is what is seen of the call. -/
lemma seen_guarded {γ : Type} {f : Event → List γ} (hf : Overlooks f Act.IsRoutine) {call : Call}
    (hlive : ctx.reasonIn call.world = none) :
    (guarded o next ctx n call).seen f call.world =
      ((next call.context call.request).within (tryEnd o ctx call.world.now) ctx).seen f
        call.world := by
  have hcall : (((next call.context call.request).timeoutAt
      (tryEnd o ctx call.world.now)).untilDone ctx).seen f call.world =
      ((next call.context call.request).within (tryEnd o ctx call.world.now) ctx).seen f
        call.world := by
    rw [untilDone, hf.seen_act (a := .firstDue ctx.endings) trivial, World.perform_endings, hlive]
    rfl
  rw [← hcall, guarded]
  rcases hy : (((next call.context call.request).timeoutAt
      (tryEnd o ctx call.world.now)).untilDone ctx).run call.world with ⟨_ | y, u⟩
  · rw [seen_bind_of_none hy]
  · have hconclude : (conclude o ctx n y).seen f u = [] :=
      (all_conclude (P := Act.IsRoutine) trivial n y).seen_eq_nil hf u
    rw [seen_bind hy, hconclude, List.append_nil]

/-- Without a copy of the request nothing is called. -/
lemma attempt_of_not_canReplay (o : RetryOptions) (next : Stage) (ctx : Context) (n : ℕ)
    (h : r.body.canReplay w.streams = false) :
    (attempt o next ctx n r).run w = (some (.error (.bodyNotReplayable n)), w) ∧
      (attempt o next ctx n r).trace w = [.acts (.rewind r n) w] := by
  have hrewind : (w.perform (.rewind r n)).1 = .error (.bodyNotReplayable n) :=
    if_neg (by simp [h])
  rw [attempt_eq, run_act, trace_act, hrewind]
  exact ⟨rfl, rfl⟩

/-! ## What is seen between tries -/

/-- What is seen of the acts of the loop itself: of the entries it leaves, wherever they are left,
and of nothing else. -/
structure SeesEntries {γ : Type} (f : Event → List γ) : Prop where
  overlooks : Overlooks f Act.IsRoutine
  anywhere : ∀ rs u v, f (.acts (.record rs) u) = f (.acts (.record rs) v)

lemma SeesEntries.seen_log {γ : Type} {f : Event → List γ} (hf : SeesEntries f) (g : Logger)
    (l : Level) (text : String) (u v : World) :
    (g.log l text).seen f u = (g.log l text).seen f v := by
  rw [Logger.log]
  split
  · rw [Activity.perform, seen_act, seen_act, seen_done, seen_done, hf.anywhere _ u v]
  · rfl

/-- Of a pause its entry is seen. -/
lemma SeesEntries.seen_pause {γ : Type} {f : Event → List γ} (hf : SeesEntries f) (n : ℕ)
    (cause : String) (w : World) :
    (pause o log ctx n maxTries cause).seen f w =
      (log.log .info (retryingText n maxTries cause
        (o.delay n (RetryOptions.jitter w.nextDraw)))).seen f w := by
  rw [pause, hf.overlooks.seen_act (a := .draw) trivial]
  set delay := o.delay n (RetryOptions.jitter w.nextDraw) with hdelay
  obtain ⟨records, hlog⟩ := log.run_log .info (retryingText n maxTries cause delay)
    (w.perform .draw).2
  have hwait : ∀ u, (waitFor ctx delay).seen f u = [] :=
    (all_waitFor trivial (fun _ => trivial) trivial delay).seen_eq_nil hf.overlooks
  show ((log.log .info (retryingText n maxTries cause delay)).bind fun _ =>
    waitFor ctx delay).seen f (w.perform .draw).2 = _
  rw [seen_bind hlog, hwait, List.append_nil]
  exact hf.seen_log log .info _ _ _

/-- What is seen of a round: its try, and the entry about it. -/
def Round.seenWithNote {γ : Type} (f : Event → List γ) (o : RetryOptions) (log : Logger)
    (next : Stage) (ctx : Context) (r : Request) (maxTries : ℕ) (t : Round) : List γ :=
  t.seen f o next ctx r ++
    (t.note o maxTries).toList.flatMap fun text => (log.log .info text).seen f t.finish

/-- The calls of the stage below during the try, if its calls are noted. -/
def Round.calls (o : RetryOptions) (next : Stage) (ctx : Context) (r : Request) (t : Round) :
    List Call :=
  (attempt o next ctx t.number r).calls t.start

lemma seesEntries_call : SeesEntries (·.call?.toList) where
  overlooks := overlooks_call.mono fun a ha => by cases a <;> trivial
  anywhere := fun _ _ _ => rfl

/-- Of a round its calls are seen, as the entry about it is none. -/
lemma seenWithNote_call (t : Round) :
    t.seenWithNote (·.call?.toList) o log next ctx r maxTries = t.calls o next ctx r := by
  have hnote : ∀ text, (log.log .info text).seen (·.call?.toList) t.finish = [] := fun text =>
    (Quiet.log log .info text).seen_eq_nil overlooks_call t.finish
  rw [Round.seenWithNote, Round.seen, ← calls_eq_seen, Round.calls]
  simp [hnote]

/-! ## Every run has a history -/

/-- What is to be shown of a run of the loop. -/
def HasHistory (o : RetryOptions) (log : Logger) (next : Stage) (ctx : Context) (r : Request)
    (maxTries n : ℕ) (p : Activity Outcome) (w : World) : Prop :=
  ∃ rounds x v, p.run w = (x, v) ∧ History o log next ctx r maxTries n w rounds x v ∧
    ∀ {γ : Type} (f : Event → List γ), SeesEntries f →
      p.seen f w = rounds.flatMap (Round.seenWithNote f o log next ctx r maxTries)

/-- What is to be shown of what follows on a round. -/
def Continues (o : RetryOptions) (log : Logger) (next : Stage) (ctx : Context) (r : Request)
    (maxTries : ℕ) (t : Round) (p : Activity Outcome) : Prop :=
  ∃ rounds x v, p.run t.finish = (x, v) ∧
    History o log next ctx r maxTries t.number t.start (t :: rounds) x v ∧
    ∀ {γ : Type} (f : Event → List γ), SeesEntries f →
      p.seen f t.finish =
        ((t.note o maxTries).toList.flatMap fun text => (log.log .info text).seen f t.finish) ++
          rounds.flatMap (Round.seenWithNote f o log next ctx r maxTries)

/-- One pass: the caller waits no longer, or there is a round, and the history of what follows from
it is that of the pass. -/
lemma hasHistory_pass {p : Activity Outcome} {f : Outcome → Activity Outcome}
    (hp : p = .act (.reason ctx) fun
      | some reason => .done (.error (.cancelled reason))
      | none => (attempt o next ctx n r).bind f)
    (hround : ∀ t : Round, t.IsOf o next ctx r → t.number = n → ∀ y, t.outcome = some y →
      Continues o log next ctx r maxTries t (f y)) (w : World) :
    HasHistory o log next ctx r maxTries n p w := by
  cases hr : ctx.reasonIn w with
  | some reason =>
    refine ⟨[], _, w, ?_, .cancelled hr, fun g hg => ?_⟩
    · rw [hp, run_act, World.perform_reason, hr, run_done]
    · rw [hp, hg.overlooks.seen_act (a := .reason ctx) trivial, World.perform_reason, hr]
      rfl
  | none =>
    have hrun : p.run w = ((attempt o next ctx n r).bind f).run w := by
      rw [hp, run_act, World.perform_reason, hr]
    have hseen : ∀ {γ : Type} (g : Event → List γ), SeesEntries g →
        p.seen g w = ((attempt o next ctx n r).bind f).seen g w := fun g hg => by
      rw [hp, hg.overlooks.seen_act (a := .reason ctx) trivial, World.perform_reason, hr]
    rcases ht : (attempt o next ctx n r).run w with ⟨_ | y, u⟩
    -- the try breaks off, and the loop with it
    · refine ⟨[⟨n, w, none, u⟩], none, u, hrun.trans (run_bind_of_none ht f),
        .ended (t := ⟨n, w, none, u⟩) ⟨hr, ht⟩ rfl, fun g hg => ?_⟩
      rw [hseen g hg, seen_bind_of_none ht]
      simp [Round.seenWithNote, Round.seen, Round.note]
    · obtain ⟨rounds, x, v, hend, hhist, hrest⟩ := hround ⟨n, w, some y, u⟩ ⟨hr, ht⟩ rfl y rfl
      refine ⟨_, x, v, ?_, hhist, fun g hg => ?_⟩
      · rw [hrun, run_bind_of_some ht, hend]
      · rw [hseen g hg, seen_bind ht, hrest g hg, List.flatMap_cons, Round.seenWithNote, Round.seen,
          List.append_assoc]

/-- A try that comes to something final ends the loop. -/
lemma continues_of_final {t : Round} {y : Outcome} (ht : t.IsOf o next ctx r)
    (hy : t.outcome = some y) (hcause : cause? y = none) :
    Continues o log next ctx r maxTries t (.done y) := by
  have hfinal : t.outcome.bind cause? = none := by rw [hy, Option.bind_some, hcause]
  refine ⟨[], t.outcome, t.finish, by rw [run_done, hy], .ended ht hfinal, fun g _ => ?_⟩
  simp [Round.note, hfinal]

/-- **Every run of the loop has a history**, and what is seen of the run is what is seen of the
rounds. -/
theorem history_tries (o : RetryOptions) (log : Logger) (next : Stage) (ctx : Context)
    (r : Request) (left n : ℕ) (w : World) :
    HasHistory o log next ctx r (n + left) n (tries o log next ctx r left n) w := by
  induction left generalizing n w with
  | zero =>
    refine hasHistory_pass (tries_zero o log next ctx r n) (fun t ht hn y hy => ?_) w
    subst hn
    cases hcause : cause? y with
    | none => exact continues_of_final ht hy hcause
    | some cause =>
      have hwhy : t.outcome.bind cause? = some cause := by rw [hy, Option.bind_some, hcause]
      obtain ⟨records, hlog⟩ := log.run_log .info (gaveUpText t.number cause) t.finish
      refine ⟨[], t.outcome, { t.finish with records }, by rw [run_bind_of_some hlog, run_done, hy],
        .gaveUp ht hwhy (le_refl _) hlog, fun g _ => ?_⟩
      rw [seen_bind hlog, seen_done]
      simp [Round.note, hwhy]
  | succ left ih =>
    refine hasHistory_pass (tries_succ o log next ctx r left n) (fun t ht hn y hy => ?_) w
    subst hn
    cases hcause : cause? y with
    | none => exact continues_of_final ht hy hcause
    | some cause =>
      have hmax : t.number + left + 1 = t.number + (left + 1) := Nat.add_assoc _ _ _
      have hlt : t.number < t.number + (left + 1) := by omega
      have hwhy : t.outcome.bind cause? = some cause := by rw [hy, Option.bind_some, hcause]
      have hnote : t.note o (t.number + (left + 1)) =
          some (retryingText t.number (t.number + (left + 1)) cause (t.delay o)) := by
        simp [Round.note, hwhy]
      simp only [hmax]
      rcases hpause : (pause o log ctx t.number (t.number + (left + 1)) cause).run t.finish with
        ⟨_ | ⟨reason | _⟩, u⟩
      · refine ⟨[], none, u, run_bind_of_none hpause _, .brokeOff ht hwhy hlt hpause,
          fun g hg => ?_⟩
        rw [seen_bind_of_none hpause, hg.seen_pause, hnote]
        simp [Round.delay]
      · refine ⟨[], _, u, by rw [run_bind_of_some hpause, resume, run_done],
          .stopped ht hwhy hlt hpause, fun g hg => ?_⟩
        rw [seen_bind hpause, hg.seen_pause, hnote]
        simp [resume, Round.delay]
      · -- the rest of the loop begins in the world in which the pause ends
        obtain ⟨rounds, x, v, hrun, hhist, hseen⟩ := ih (t.number + 1) u
        have hmax : t.number + 1 + left = t.number + (left + 1) := by omega
        rw [hmax] at hhist
        refine ⟨rounds, x, v, by rw [run_bind_of_some hpause, resume, hrun],
          .again ht hwhy hlt hpause hhist, fun g hg => ?_⟩
        rw [seen_bind hpause, hg.seen_pause, hnote, resume, hseen g hg, hmax]
        simp [Round.delay]

/-- Every run of the policy has a history that begins with the first try. -/
theorem history_send (o : RetryOptions) (next : Stage) (log : Logger) (ctx : Context)
    (r : Request) (w : World) :
    HasHistory o.withDefaults log next ctx r o.withDefaults.maxTries.toNat 1
      ((policy o).create next log ctx r) w := by
  have hmax : 1 + (max o.withDefaults.maxTries.toNat 1 - 1) = o.withDefaults.maxTries.toNat := by
    have := maxTries_withDefaults_pos o
    omega
  have h := history_tries o.withDefaults log next ctx r
    (max o.withDefaults.maxTries.toNat 1 - 1) 1 w
  rwa [hmax] at h

/-! ## What a history says about its rounds -/

namespace History

variable {rounds past rest : List Round} {t : Round}

lemma of_nil (h : History o log next ctx r maxTries n w [] x v) :
    v = w ∧ ∃ reason, ctx.reasonIn w = some reason ∧ x = some (.error (.cancelled reason)) := by
  cases h with
  | cancelled done => exact ⟨rfl, _, done, rfl⟩

/-- What a history says about its first round, and about what follows from it. -/
lemma of_cons (h : History o log next ctx r maxTries n w (t :: rest) x v) :
    t.number = n ∧ t.start = w ∧ t.IsOf o next ctx r ∧
      ((t.outcome.bind cause? = none ∧ rest = [] ∧ x = t.outcome ∧ v = t.finish) ∨
      ∃ cause, t.outcome.bind cause? = some cause ∧
        ((maxTries ≤ n ∧ rest = [] ∧ x = t.outcome ∧
          (log.log .info (gaveUpText n cause)).run t.finish = (some (), v)) ∨
        (n < maxTries ∧ rest = [] ∧ ∃ reason, x = some (.error (.cancelled reason)) ∧
          (pause o log ctx n maxTries cause).run t.finish = (some (.error reason), v)) ∨
        (n < maxTries ∧ rest = [] ∧ x = none ∧
          (pause o log ctx n maxTries cause).run t.finish = (none, v)) ∨
        (n < maxTries ∧ ∃ u,
          (pause o log ctx n maxTries cause).run t.finish = (some (.ok ()), u) ∧
          History o log next ctx r maxTries (n + 1) u rest x v))) := by
  cases h with
  | ended round final => exact ⟨rfl, rfl, round, Or.inl ⟨final, rfl, rfl, rfl⟩⟩
  | gaveUp round why last entry =>
    exact ⟨rfl, rfl, round, Or.inr ⟨_, why, Or.inl ⟨last, rfl, rfl, entry⟩⟩⟩
  | stopped round why allowed paused =>
    exact ⟨rfl, rfl, round, Or.inr ⟨_, why, Or.inr (Or.inl ⟨allowed, rfl, _, rfl, paused⟩)⟩⟩
  | brokeOff round why allowed paused =>
    exact ⟨rfl, rfl, round,
      Or.inr ⟨_, why, Or.inr (Or.inr (Or.inl ⟨allowed, rfl, rfl, paused⟩))⟩⟩
  | again round why allowed paused rest =>
    exact ⟨rfl, rfl, round,
      Or.inr ⟨_, why, Or.inr (Or.inr (Or.inr ⟨allowed, _, paused, rest⟩))⟩⟩

/-- If there is another round, the first has come to a failure that may pass by itself, and the
other begins where the pause between them ends. -/
lemma of_cons_cons {s : Round}
    (h : History o log next ctx r maxTries n w (t :: s :: rest) x v) :
    n < maxTries ∧ ∃ cause, t.outcome.bind cause? = some cause ∧
      (pause o log ctx n maxTries cause).run t.finish = (some (.ok ()), s.start) ∧
      History o log next ctx r maxTries (n + 1) s.start (s :: rest) x v := by
  obtain ⟨-, -, -, ⟨-, hnil, -⟩ | ⟨cause, hcause, hends⟩⟩ := h.of_cons
  · cases hnil
  · rcases hends with ⟨-, hnil, -⟩ | ⟨-, hnil, -⟩ | ⟨-, hnil, -⟩ | ⟨hlt, u, hu, hs⟩
    · cases hnil
    · cases hnil
    · cases hnil
    · obtain ⟨-, rfl, -⟩ := hs.of_cons
      exact ⟨hlt, cause, hcause, hu, hs⟩

/-- The history from a round on. -/
lemma of_append (h : History o log next ctx r maxTries n w (past ++ t :: rest) x v) :
    History o log next ctx r maxTries t.number t.start (t :: rest) x v := by
  induction past generalizing n w with
  | nil =>
    obtain ⟨rfl, rfl, -⟩ := h.of_cons
    exact h
  | cons s past ih =>
    cases past with
    | nil =>
      obtain ⟨-, -, -, -, hrest⟩ := h.of_cons_cons
      exact ih hrest
    | cons s' past =>
      obtain ⟨-, -, -, -, hrest⟩ := h.of_cons_cons
      exact ih hrest

/-- After the last try that is allowed there is none. -/
lemma eq_nil_of_last (h : History o log next ctx r maxTries n w (past ++ t :: rest) x v)
    (hlast : ¬ t.number < maxTries) : rest = [] := by
  obtain ⟨-, -, -, ⟨-, hnil, -⟩ | ⟨cause, -, hends⟩⟩ := h.of_append.of_cons
  · exact hnil
  · rcases hends with ⟨-, hnil, -⟩ | ⟨hlt, -⟩ | ⟨hlt, -⟩ | ⟨hlt, -⟩
    · exact hnil
    all_goals exact absurd hlt hlast

lemma isOf (h : History o log next ctx r maxTries n w rounds x v) :
    ∀ t ∈ rounds, t.IsOf o next ctx r := by
  induction h with
  | cancelled done => simp
  | ended round final => simpa using round
  | gaveUp round why last entry => simpa using round
  | stopped round why allowed paused => simpa using round
  | brokeOff round why allowed paused => simpa using round
  | again round why allowed paused rest ih =>
    intro s hs
    rcases List.mem_cons.mp hs with rfl | hs
    · exact round
    · exact ih s hs

/-- The rounds are numbered. -/
lemma numbers (h : History o log next ctx r maxTries n w rounds x v) :
    rounds.map (·.number) = List.range' n rounds.length := by
  induction h with
  | again round why allowed paused rest ih =>
    rw [List.map_cons, ih, List.length_cons, List.range'_succ]
  | _ => simp

lemma number_pos (h : History o log next ctx r maxTries 1 w rounds x v) :
    ∀ t ∈ rounds, 0 < t.number := by
  intro t ht
  have hmem : t.number ∈ rounds.map (·.number) := List.mem_map_of_mem ht
  rw [h.numbers, List.mem_range'_1] at hmem
  exact hmem.1

/-- There are no more rounds than tries are allowed. -/
lemma length_le (h : History o log next ctx r maxTries n w rounds x v) (hn : n ≤ maxTries) :
    n + rounds.length ≤ maxTries + 1 := by
  induction h with
  | again round why allowed paused rest ih =>
    have hrest := ih allowed
    rw [List.length_cons]
    omega
  | cancelled done =>
    rw [List.length_nil]
    omega
  | _ =>
    rw [List.length_singleton]
    omega

end History

end QueueClient.Retry
