/-
# When tries begin and end

A try that begins in a world has time until its deadline: the time for a try later, or when the
caller's time is over if that is earlier (`Round.deadline`).  The stage below is told so in two
ways.  The context of the call ends with the deadline, and the URL asks the service to give up at
most a second after that (`Announces`).

The clock stands at whole milliseconds, and it moves on only while the run waits, so that every
bound on the end of a wait is one on the clock (`now_le_of_endsBy`).  A call that gives way at its
deadline has no longer waits, whatever the stage below does (`EndsBy.timeoutAt`).  A pause lasts
for the delay that is drawn for it, up to the next whole millisecond (`now_of_pause`), and if it
goes on until then it lasts no longer.
-/
import QueueClient.Proofs.Retry.Streamed
import QueueClient.Proofs.Url.Pieces

namespace QueueClient

/-- The clock stands at a whole millisecond. -/
def World.OnTick (w : World) : Prop := Instant.tick w.now = w.now

lemma World.Later.onTick {w v : World} (h : w.Later v) (hw : w.OnTick) : v.OnTick := by
  rcases h.ticks with heq | htick
  · rw [World.OnTick, heq]
    exact hw
  · exact htick

/-- Between an instant and the first whole millisecond at or after it there is no other. -/
lemma Instant.eq_tick {t now : ℕ} (hnow : tick now = now) (hle : t ≤ now) (hge : now ≤ tick t) :
    now = tick t := by
  refine le_antisymm hge ?_
  calc tick t ≤ tick now := tick_mono hle
    _ = now := hnow

/-! ## Draws -/

/-- The act draws nothing. -/
def Act.SparesDraws : Act → Prop
  | .draw => False
  | _ => True

lemma World.drawn_of_passes {w v : World} (h : w.Passes v) : v.drawn = w.drawn := by
  rw [h.rest]

lemma World.drawn_perform {a : Act} (h : a.SparesDraws) (w : World) :
    (w.perform a).2.drawn = w.drawn := by
  cases a with
  | draw => exact absurd h id
  | _ => rfl

/-! ## Bounds on the end of a run -/

namespace Activity

variable {α β : Type} {c : Context} {x : Option α} {v w : World} {t : ℕ}

/-- All waits have timers, and none of them goes beyond an instant. -/
def EndsBy (t : ℕ) : Activity α → Prop
  | done _ => True
  | act _ k => ∀ x, (k x).EndsBy t
  | wait wake k => (∃ s, wake.timer = some s ∧ s ≤ t) ∧ k.EndsBy t
  | never => False
  | abort => True

namespace EndsBy

lemma bind {p : Activity α} {f : α → Activity β} (hp : p.EndsBy t)
    (hf : ∀ a, (f a).EndsBy t) : (p.bind f).EndsBy t := by
  induction p with
  | done a => exact hf a
  | act a k ih => exact fun x => ih x (hp x)
  | wait wake k ih => exact ⟨hp.1, ih hp.2⟩
  | never => exact hp
  | abort => trivial

/-- Giving way to a context makes no wait longer. -/
lemma watch {p : Activity α} (hp : p.EndsBy t) (c : Context) : (p.watch c).EndsBy t := by
  induction p with
  | done a => trivial
  | act a k ih => exact fun x => ih x (hp x)
  | wait wake k ih =>
    obtain ⟨⟨s, hs, hst⟩, hk⟩ := hp
    have htimer : ∃ m, (wake.or (.ofContext c)).timer = some m ∧ m ≤ t := by
      obtain ⟨m, hm⟩ : ∃ m, Wake.earlier wake.timer (Wake.ofContext c).timer = some m := by
        rw [hs]
        cases (Wake.ofContext c).timer with
        | none => exact ⟨_, rfl⟩
        | some d => exact ⟨_, rfl⟩
      have hms : m ≤ s := (Wake.earlier_eq_some hm).2 s hs
      exact ⟨m, hm, hms.trans hst⟩
    rintro (_ | r)
    · refine ⟨htimer, ?_⟩
      rintro (_ | r)
      · exact ih hk
      · trivial
    · trivial
  | never => exact absurd hp id
  | abort => trivial

lemma untilDone {p : Activity α} (hp : p.EndsBy t) (c : Context) :
    (p.untilDone c).EndsBy t := by
  rintro (_ | r)
  · exact hp.watch c
  · trivial

/-- Whatever gives way at an instant has no wait beyond it. -/
lemma timeoutAt (t : ℕ) (p : Activity α) : (p.timeoutAt t).EndsBy t := by
  induction p with
  | done a => trivial
  | act a k ih => exact fun x => ih x
  | wait wake k ih =>
    obtain ⟨m, hm⟩ := Option.ne_none_iff_exists'.mp (Wake.earlier_some_ne_none wake.timer t)
    rintro (_ | _)
    · refine ⟨⟨m, hm, Wake.le_of_earlier_some hm⟩, ?_⟩
      rintro (_ | _)
      · trivial
      · exact ih
    · trivial
  | never =>
    rintro (_ | _)
    · exact ⟨⟨t, rfl, le_refl t⟩, trivial⟩
    · trivial
  | abort => trivial

end EndsBy

/-- A run whose waits go no further than an instant ends at the first whole millisecond at or after
it, unless it begins later. -/
lemma now_le_of_endsBy {p : Activity α} (hp : p.EndsBy t) (h : p.run w = (x, v)) :
    v.now ≤ max w.now (Instant.tick t) := by
  induction p generalizing w with
  | done a =>
    rw [run_done, Prod.mk.injEq] at h
    rw [← h.2]
    exact le_max_left _ _
  | act a k ih =>
    rw [run_act] at h
    have hrest := ih _ (hp _) h
    rwa [World.perform_now] at hrest
  | wait wake k ih =>
    obtain ⟨⟨s, hs, hst⟩, hk⟩ := hp
    obtain ⟨u, hu⟩ := Option.ne_none_iff_exists'.mp (World.sleep_ne_none hs w)
    rw [run_wait_of_some hu] at h
    have hwait : u.now ≤ max w.now (Instant.tick s) :=
      World.now_le_of_mem_pause hs (World.mem_pause_of_sleep hu)
    have hrest : v.now ≤ max u.now (Instant.tick t) := ih hk h
    have hticks : Instant.tick s ≤ Instant.tick t := Instant.tick_mono hst
    omega
  | never => exact absurd hp id
  | abort =>
    rw [run_abort, Prod.mk.injEq] at h
    rw [← h.2]
    exact le_max_left _ _

end Activity

namespace Retry

open Activity

variable {o : RetryOptions} {log : Logger} {next : Stage} {below : Callee} {ctx : Context}
  {r : Request} {n maxTries : ℕ} {x : Option Outcome} {t s : Round} {u v w : World}

/-! ## The deadline of a try -/

/-- When the time for the try is over: the time for a try after its beginning, or when the caller's
time is over if that is earlier. -/
def Round.deadline (o : RetryOptions) (ctx : Context) (t : Round) : ℕ :=
  match ctx.deadline with
  | some d => min (t.start.now + o.tryTimeout.nanos) d
  | none => t.start.now + o.tryTimeout.nanos

lemma tryEnd_start (o : RetryOptions) (ctx : Context) (t : Round) :
    tryEnd o ctx t.start.now = t.deadline o ctx := by
  rw [tryEnd, Round.deadline]
  cases ctx.deadline with
  | none => rfl
  | some d =>
    show (if d < _ then d else _) = min _ d
    split <;> omega

/-- There is some time for a try of a caller who waits, and never more than the options say. -/
lemma Round.deadline_bounds (ho : 0 < o.tryTimeout.nanos) (hlive : ctx.reasonIn t.start = none) :
    t.start.now < t.deadline o ctx ∧
      t.deadline o ctx ≤ t.start.now + o.tryTimeout.nanos := by
  have hoverdue := Context.isOverdue_eq_false_iff.mp (Context.not_isOverdue_of_reasonIn hlive)
  rw [Round.deadline]
  cases hd : ctx.deadline with
  | none =>
    simp only
    omega
  | some d =>
    have hlt : t.start.now < d := hoverdue d hd
    simp only
    omega

/-- A call tells the stage below how much time there is: by its context, which has the number of the
try and its deadline, and by its URL, which beside the pieces of the caller's query that are no
timeout has one that asks the service to keep to the time there is, and at most a second more. -/
structure Round.Announces (o : RetryOptions) (ctx : Context) (r : Request) (t : Round)
    (call : Call) : Prop where
  start : call.world.now = t.start.now
  attempt : call.context.attempt = t.number
  deadline : call.context.deadline = some (t.deadline o ctx)
  timeout : ∃ seconds : ℕ, Query.pieces (call.request.url.query.getD "").toList =
      ((Query.pieces (r.url.query.getD "").toList).filter isForeignPiece).map
        (Url.encodeQuery (Url.isSpecialScheme r.url.scheme)) ++
          [("timeout=" ++ toString seconds).toList] ∧
    t.deadline o ctx - t.start.now < seconds * 1_000_000_000 ∧
    seconds * 1_000_000_000 ≤ t.deadline o ctx - t.start.now + 1_000_000_000

lemma Enters.now {call : Call} (h : Enters o ctx r n w call) : call.world.now = w.now := by
  obtain ⟨q, u, hq, rfl⟩ := h.made
  obtain ⟨q', idsMade, hq', -⟩ := run_renew n r w
  rw [hq', Prod.mk.injEq] at hq
  show u.now = w.now
  rw [← hq.2]

/-- A copy of a request has its URL. -/
lemma IsCopy.url {q : Request} (h : IsCopy n r q) : q.url = r.url := by
  rcases h with rfl | ⟨-, -, id, rfl⟩
  · rfl
  · rfl

/-- Whole seconds and one more are more than the time there is, by a second at most. -/
lemma secs_succ_bounds (d : Duration) :
    d.nanos < (d.secs + 1) * 1_000_000_000 ∧
      (d.secs + 1) * 1_000_000_000 ≤ d.nanos + 1_000_000_000 := by
  have hsum := d.secs_add_subsecNanos
  have hrest := d.subsecNanos_lt
  omega

lemma Enters.announces {call : Call} (ho : 0 < o.tryTimeout.nanos)
    (hlive : ctx.reasonIn t.start = none) (h : Enters o ctx r t.number t.start call) :
    t.Announces o ctx r call := by
  have hend : tryEnd o ctx call.world.now = t.deadline o ctx := by rw [h.now, tryEnd_start]
  obtain ⟨hlt, hle⟩ := Round.deadline_bounds ho hlive
  constructor
  case start => exact h.now
  case attempt => exact h.attempt_eq
  case deadline => rw [h.deadline, hend]
  case timeout =>
    obtain ⟨copy, hcopy, hrequest⟩ := h.isTry.request
    set budget := Instant.since (tryEnd o ctx call.world.now) call.world.now with hbudget
    -- the time for a try is a duration, so that what there is of it is one too
    have hnanos : budget.nanos = t.deadline o ctx - t.start.now := by
      rw [hbudget, hend, h.now, Instant.since, Duration.nanos_ofNanos]
      have hmax := o.tryTimeout.nanos_lt
      omega
    refine ⟨budget.secs + 1, ?_, ?_⟩
    · rw [hrequest]
      show Query.pieces ((copy.url.setServerTimeout budget).query.getD "").toList = _
      rw [pieces_setServerTimeout, hcopy.url]
      rfl
    · rw [← hnanos]
      exact secs_succ_bounds budget

/-! ## The end of a try -/

lemma endsBy_conclude (t : ℕ) (n : ℕ) (y : Except CancelReason (Option Outcome)) :
    (conclude o ctx n y).EndsBy t := by
  cases y with
  | error reason => trivial
  | ok answer =>
    rw [conclude, settle]
    split
    · trivial
    · rintro (_ | reason) <;> trivial

/-- A guarded call ends with the time for it. -/
lemma endsBy_guarded (o : RetryOptions) (next : Stage) (ctx : Context) (n : ℕ) (call : Call) :
    (guarded o next ctx n call).EndsBy (tryEnd o ctx call.world.now) := by
  have hcall := EndsBy.timeoutAt (tryEnd o ctx call.world.now)
    (next call.context call.request)
  exact (hcall.untilDone ctx).bind fun y => endsBy_conclude _ n y

lemma later_of_isOf (ht : t.IsOf o next ctx r) : t.start.Later t.finish := later_of_run ht.run_eq

/-- A try ends at the first whole millisecond at or after its deadline at the latest. -/
lemma now_finish_le (ho : 0 < o.tryTimeout.nanos) (ht : t.IsOf o next ctx r) :
    t.finish.now ≤ Instant.tick (t.deadline o ctx) := by
  have hstart : t.start.now ≤ Instant.tick (t.deadline o ctx) :=
    (Round.deadline_bounds ho ht.live).1.le.trans (Instant.le_tick _)
  cases hreplay : r.body.canReplay t.start.streams with
  | false =>
    have hrun := (attempt_of_not_canReplay o next ctx t.number hreplay).1
    rw [ht.run_eq, Prod.mk.injEq] at hrun
    rw [hrun.2]
    exact hstart
  | true =>
    rcases Nat.lt_or_ge Instant.last (t.start.now + o.tryTimeout.nanos) with hlast | hnamed
    · obtain ⟨⟨idsMade, hrun⟩, -⟩ := attempt_of_lt o next ctx t.number hreplay hlast
      rw [ht.run_eq, Prod.mk.injEq] at hrun
      rw [hrun.2]
      exact hstart
    · obtain ⟨call, henters, hrun, -⟩ := exists_enters o next t.number ht.live hreplay hnamed
      rw [ht.run_eq] at hrun
      have hend := now_le_of_endsBy (endsBy_guarded o next ctx t.number call) hrun.symm
      rw [henters.now, tryEnd_start] at hend
      exact hend.trans (max_le hstart (le_refl _))

/-- How a try keeps to its time: it begins before the caller's time is over, tells the stage below
how much time there is, in one call or in none if it has no copy of the request to send or no end
that the clock can name, and ends when its time is over at the latest. -/
structure Round.InTime (o : RetryOptions) (below : Callee) (ctx : Context) (r : Request)
    (t : Round) : Prop where
  begins : ∀ d, ctx.deadline = some d → t.start.now < d
  calls : (∃ call, t.calls o below.stage ctx r = [call] ∧ t.Announces o ctx r call) ∨
    (r.body.canReplay t.start.streams = false ∧ t.calls o below.stage ctx r = []) ∨
    t.IsUnnamed o below ctx r
  later : t.start.Later t.finish
  ends : t.finish.now ≤ Instant.tick (t.deadline o ctx)

lemma inTime_of_isOf (ho : 0 < o.tryTimeout.nanos) (ht : t.IsOf o below.stage ctx r) :
    t.InTime o below ctx r := by
  constructor
  case begins =>
    exact Context.isOverdue_eq_false_iff.mp (Context.not_isOverdue_of_reasonIn ht.live)
  case calls =>
    cases hreplay : r.body.canReplay t.start.streams with
    | false =>
      refine Or.inr (Or.inl ⟨rfl, ?_⟩)
      rw [Round.calls, Activity.calls,
        (attempt_of_not_canReplay o below.stage ctx t.number hreplay).2]
      rfl
    | true =>
      rcases Nat.lt_or_ge Instant.last (t.start.now + o.tryTimeout.nanos) with hlast | hnamed
      · exact Or.inr (Or.inr (isUnnamed_of_lt ht hreplay hlast))
      · obtain ⟨call, hcall, henters⟩ := calls_of_canReplay ht hreplay hnamed
        exact Or.inl ⟨call, hcall, henters.announces ho ht.live⟩
  case later => exact later_of_isOf ht
  case ends => exact now_finish_le ho ht

/-! ## From one try to the next -/

/-- A pause takes one draw. -/
lemma drawn_pause {cause : String} {y : Option (Except CancelReason Unit)}
    (h : (pause o log ctx n maxTries cause).run w = (y, v)) : v.drawn = w.drawn + 1 := by
  obtain ⟨records, hpause⟩ := run_pause o log ctx n maxTries cause w
  rw [hpause] at h
  have hspares : (waitFor ctx (o.delay n (RetryOptions.jitter w.nextDraw))).All Act.SparesDraws :=
    all_waitFor trivial (fun _ => trivial) trivial _
  exact hspares.kept_of_run (w := { w with drawn := w.drawn + 1, records })
    (fun _ _ => World.drawn_of_passes) (fun _ u ha => World.drawn_perform ha u) h

/-- After a pause that has not been ended by the caller the wait is over, and not a millisecond
more. -/
lemma now_eq_of_pause {cause : String} (hw : w.OnTick)
    (h : (pause o log ctx n maxTries cause).run w = (some (.ok ()), v)) :
    v.now = Instant.tick (waitEnd w.now (o.delay n (RetryOptions.jitter w.nextDraw))) := by
  obtain ⟨hge, hle⟩ := now_of_pause h
  have hlater : w.now ≤ waitEnd w.now (o.delay n (RetryOptions.jitter w.nextDraw)) := by
    rw [waitEnd]
    split <;> exact Nat.le_add_right _ _
  have hstart := hlater.trans (Instant.le_tick _)
  have htick : v.OnTick := (later_of_run h).onTick hw
  exact Instant.eq_tick htick hge (hle.trans (max_le hstart (le_refl _)))

/-- The round `s` comes after the round `t`: it has the next number and begins when the delay that
is drawn after `t` is over, at the first whole millisecond; a delay whose end the clock cannot name
is over after thirty years.  Nothing else is drawn between them. -/
structure Round.ComesAfter (o : RetryOptions) (s t : Round) : Prop where
  number : s.number = t.number + 1
  now_eq : s.start.now = Instant.tick (waitEnd t.finish.now (t.delay o))
  drawn : s.start.drawn = t.finish.drawn + 1
  later : t.finish.Later s.start

/-- The round has begun by an instant and is not over. -/
def Round.IsUnderWay (t : Round) (now : ℕ) : Prop := t.start.now ≤ now ∧ now < t.finish.now

instance (t : Round) (now : ℕ) : Decidable (t.IsUnderWay now) :=
  inferInstanceAs (Decidable (_ ∧ _))

/-- How the rounds of a run keep to their time. -/
structure TimedRun (o : RetryOptions) (below : Callee) (ctx : Context) (r : Request)
    (rounds : List Round) : Prop where
  /-- Each round keeps to its time. -/
  inTime : ∀ t ∈ rounds, t.InTime o below ctx r
  /-- Between two rounds is the delay that is drawn for it. -/
  comesAfter : ∀ past t s rest, rounds = past ++ t :: s :: rest → s.ComesAfter o t
  /-- Each round is over when another begins. -/
  sequential : rounds.Pairwise fun t s => t.finish.Later s.start
  /-- At no instant is more than one under way. -/
  atMostOne : ∀ now, (rounds.filter fun t => t.IsUnderWay now).length ≤ 1

/-- Of rounds that come one after the other no two are under way at once. -/
lemma length_underWay_le {rounds : List Round}
    (h : rounds.Pairwise fun t s => t.finish.Later s.start) (now : ℕ) :
    (rounds.filter fun t => t.IsUnderWay now).length ≤ 1 := by
  have hunder : ∀ t ∈ rounds.filter (fun t => t.IsUnderWay now), t.IsUnderWay now := by
    intro t ht
    simpa using (List.mem_filter.mp ht).2
  have hpairs := h.sublist (List.filter_sublist (p := fun t => decide (t.IsUnderWay now)))
  match hl : rounds.filter fun t => t.IsUnderWay now with
  | [] => simp [hl]
  | [_] => simp [hl]
  | t :: s :: rest =>
    rw [hl] at hunder hpairs
    have hbefore : t.finish.now ≤ s.start.now :=
      (List.rel_of_pairwise_cons hpairs List.mem_cons_self).now_le
    have hfirst := (hunder t List.mem_cons_self).2
    have hsecond := (hunder s (List.mem_cons_of_mem _ List.mem_cons_self)).1
    omega

namespace History

variable {rounds past rest : List Round}

/-- All rounds begin after the loop does. -/
lemma later_start (h : History o log next ctx r maxTries n w rounds x v) :
    ∀ t ∈ rounds, w.Later t.start := by
  induction h with
  | cancelled done => simp
  | ended round final | gaveUp round why last entry | stopped round why allowed paused
  | brokeOff round why allowed paused =>
    intro t ht
    rw [List.mem_singleton] at ht
    rw [ht]
    exact .refl _
  | again round why allowed paused rest ih =>
    intro s hs
    rcases List.mem_cons.mp hs with rfl | hs
    · exact .refl _
    · exact ((later_of_isOf round).trans (later_of_run paused)).trans (ih s hs)

/-- The rounds come one after the other. -/
lemma pairwise (h : History o log next ctx r maxTries n w rounds x v) :
    rounds.Pairwise fun t s => t.finish.Later s.start := by
  induction h with
  | cancelled done => exact .nil
  | ended round final | gaveUp round why last entry | stopped round why allowed paused
  | brokeOff round why allowed paused =>
    exact List.pairwise_singleton _ _
  | again round why allowed paused rest ih =>
    refine List.pairwise_cons.mpr ⟨fun s hs => ?_, ih⟩
    exact (later_of_run paused).trans (rest.later_start s hs)

lemma comesAfter (hw : w.OnTick)
    (h : History o log next ctx r maxTries n w (past ++ t :: s :: rest) x v) :
    s.ComesAfter o t := by
  have hround : t.IsOf o next ctx r := h.isOf t (by simp)
  have hfinish : t.finish.OnTick :=
    ((h.later_start t (by simp)).trans (later_of_isOf hround)).onTick hw
  obtain ⟨-, cause, -, hpause, hrest⟩ := h.of_append.of_cons_cons
  obtain ⟨hnumber, -⟩ := hrest.of_cons
  exact ⟨hnumber, now_eq_of_pause hfinish hpause, drawn_pause hpause, later_of_run hpause⟩

lemma timedRun (ho : 0 < o.tryTimeout.nanos) (hw : w.OnTick)
    (h : History o log below.stage ctx r maxTries n w rounds x v) :
    TimedRun o below ctx r rounds where
  inTime := fun t ht => inTime_of_isOf ho (h.isOf t ht)
  comesAfter := by
    rintro past t s rest rfl
    exact h.comesAfter hw
  sequential := h.pairwise
  atMostOne := length_underWay_le h.pairwise

end History

/-! ## The policy -/

/-- **Tries and the pauses between them keep to their times.**  Whatever is below, for every caller
and whatever chance draws: a run goes through rounds, one after the other, with the numbers from 1
on, and its calls are theirs.  Each begins before the caller's time is over, announces its deadline
to the stage below and ends with it at the latest, and the next one begins exactly when the delay
that is drawn for it is over, always up to the whole milliseconds of the clock. -/
theorem policy_timing (o : RetryOptions) (below : Callee) (log : Logger) (ctx : Context)
    (r : Request) (w : World) (hclock : w.OnTick) :
    ∃ rounds x v, (send o below log ctx r).run w = (x, v) ∧
      History o.withDefaults log below.stage ctx r o.withDefaults.maxTries.toNat 1 w rounds x v ∧
      rounds.map (·.number) = List.range' 1 rounds.length ∧
      (send o below log ctx r).calls w =
        rounds.flatMap (Round.calls o.withDefaults below.stage ctx r) ∧
      TimedRun o.withDefaults below ctx r rounds := by
  obtain ⟨rounds, x, v, hrun, hhist, hseen⟩ := history_send o below.stage log ctx r w
  have hcalls : (send o below log ctx r).calls w =
      rounds.flatMap (Round.calls o.withDefaults below.stage ctx r) := by
    rw [calls_eq_seen, send, hseen _ seesEntries_call]
    exact List.flatMap_congr fun t _ => seenWithNote_call t
  exact ⟨rounds, x, v, hrun, hhist, hhist.numbers, hcalls,
    hhist.timedRun (tryTimeout_withDefaults_pos o) hclock⟩

/-- Pauses of a little more than five milliseconds. -/
def shortPauses : RetryOptions := ⟨.fixed, 3, .ofSecs 1, .ofNanos 5_000_001, .ofSecs 1⟩

/-- A caller who waits a little more than a second. -/
def patientCaller : Context := { Context.ofToken ⟨[0]⟩ with deadline := some 1_003_000_000 }

/-- Sending a request for that caller to a stage that has no time for the first call. -/
def sendPatiently : Activity Outcome :=
  send shortPauses busyOnce ⟨.discard, none⟩ patientCaller (.new "GET" default)

/-- The second call is made at the sixth millisecond and has until the caller's time is over. -/
theorem policy_timing_sendPatiently :
    (World.start []).OnTick ∧
    (sendPatiently.calls (.start [])).map (fun call => (call.world.now, call.context.deadline)) =
      [(0, some 1_000_000_000), (6_000_000, some 1_003_000_000)] ∧
    ∃ rounds, TimedRun shortPauses.withDefaults busyOnce patientCaller (.new "GET" default) rounds ∧
      sendPatiently.calls (.start []) = rounds.flatMap (Round.calls shortPauses.withDefaults
        busyOnce.stage patientCaller (.new "GET" default)) := by
  have hclock : (World.start []).OnTick := rfl
  obtain ⟨rounds, x, v, -, -, -, hcalls, htimed⟩ :=
    policy_timing shortPauses busyOnce ⟨.discard, none⟩ patientCaller (.new "GET" default)
      (.start []) hclock
  exact ⟨hclock, by decide +kernel, rounds, htimed, hcalls⟩

/-- The longest pauses. -/
def longestPauses : RetryOptions := ⟨.fixed, 2, .ofSecs 1, .longest, .longest⟩

/-- Sending a request with such pauses to a stage that has no time for the first call. -/
def sendSlowly : Activity Outcome :=
  send longestPauses busyOnce ⟨.discard, none⟩ (.ofToken ⟨[0]⟩) (.new "GET" default)

/-- The second call is made after thirty years, long before the pause is over. -/
theorem exists_call_before_end_of_pause :
    (sendSlowly.calls (.start [])).map (fun call => (call.context.attempt, call.world.now)) =
      [(1, 0), (2, 946_080_000 * 1_000_000_000)] ∧
    (∀ draw, longestPauses.withDefaults.delay 1 (RetryOptions.jitter draw) = .longest) ∧
    946_080_000 * 1_000_000_000 ≠ Instant.tick (0 + Duration.longest.nanos) := by
  refine ⟨by decide +kernel, fun draw => ?_, by decide +kernel⟩
  have hlongest : min longestPauses.withDefaults.retryDelay
      longestPauses.withDefaults.maxRetryDelay = .longest := by
    decide +kernel
  rw [RetryOptions.delay_fixed rfl, hlongest]

end Retry

end QueueClient
