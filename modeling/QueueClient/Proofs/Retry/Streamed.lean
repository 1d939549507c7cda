/-
# Retrying a streamed request

A request with a one-shot stream is tried like any other until a stage below takes the stream.
What follows then is told by the rounds of the loop: no try takes the stream before the one that
does (`StreamedRun.readable`), and the try after that one has no copy of the request to send, so
that it ends the loop without a call (`StreamedRun.gone`).  Whether there is a next try at all is
settled as for any request, by the outcome, the number of tries and the caller
(`StreamedRun.goesOn`).

The stream is followed from round to round: a try that does not take it leaves it where it was, and
so does the pause between two tries (`peek_start`).
-/
import QueueClient.Proofs.Activity.Taking
import QueueClient.Proofs.Retry.Rounds

namespace QueueClient

namespace Activity

variable {v w : World}

/-- An activity that lasts until an instant ends at the first whole millisecond at or after it. -/
lemma now_of_run_sleepUntil {t : ℕ} (h : (Activity.sleepUntil t).run w = (some (), v)) :
    t ≤ v.now ∧ v.now ≤ max w.now (Instant.tick t) := by
  rw [Activity.sleepUntil, run_act, World.perform_isDue] at h
  by_cases hdue : t ≤ w.now
  · rw [if_pos (Wake.isDueIn_ofTimer.mpr hdue), run_done, Prod.mk.injEq] at h
    rw [← h.2]
    exact ⟨hdue, le_max_left _ _⟩
  · rw [if_neg (mt Wake.isDueIn_ofTimer.mp hdue)] at h
    have htimer : (Wake.ofTimer t).timer = some t := rfl
    obtain ⟨u, hu⟩ := Option.ne_none_iff_exists'.mp (World.sleep_ne_none htimer w)
    rw [run_wait_of_some hu, run_done, Prod.mk.injEq] at h
    rw [← h.2]
    exact ⟨Wake.isDueIn_ofTimer.mp (World.isDueIn_of_sleep hu),
      World.now_le_of_mem_pause htimer (World.mem_pause_of_sleep hu)⟩

end Activity

namespace Retry

open Activity

variable {o : RetryOptions} {log : Logger} {next : Stage} {below : Callee} {ctx : Context}
  {r : Request} {n maxTries slot : ℕ} {chunks : List (List UInt8)} {x : Option Outcome}
  {u v w : World}

/-! ## Pauses -/

/-- The instant at which a wait ends that begins at an instant: its length later, or thirty years
later if the clock cannot name that. -/
def waitEnd (now : ℕ) (delay : Duration) : ℕ :=
  if now + delay.nanos ≤ Instant.last then now + delay.nanos
  else now + 30 * 365 * 86_400 * 1_000_000_000

lemma wakeUp?_eq (now : ℕ) (delay : Duration) :
    Instant.wakeUp? now delay =
      if waitEnd now delay ≤ Instant.last then some (waitEnd now delay) else none := by
  have hyears : Instant.thirtyYears.nanos = 30 * 365 * 86_400 * 1_000_000_000 :=
    Duration.nanos_ofNanos (by norm_num [UInt64.size])
  by_cases h : now + delay.nanos ≤ Instant.last
  · have hend : waitEnd now delay = now + delay.nanos := if_pos h
    rw [hend, Instant.wakeUp?, Instant.after?_of_le h, Option.some_or, if_pos h]
  · have hend : waitEnd now delay = now + 30 * 365 * 86_400 * 1_000_000_000 := if_neg h
    rw [hend, Instant.wakeUp?, Instant.after?_of_lt (Nat.lt_of_not_le h), Option.none_or,
      Instant.after?, hyears]

/-- The wait of a pause begins when its entry has been left. -/
lemma run_pause (o : RetryOptions) (log : Logger) (ctx : Context) (n maxTries : ℕ)
    (cause : String) (w : World) :
    ∃ records, (pause o log ctx n maxTries cause).run w =
      (waitFor ctx (o.delay n (RetryOptions.jitter w.nextDraw))).run
        { w with drawn := w.drawn + 1, records } := by
  obtain ⟨records, hlog⟩ := log.run_log .info (retryingText n maxTries cause
    (o.delay n (RetryOptions.jitter w.nextDraw))) (w.perform .draw).2
  refine ⟨records, ?_⟩
  rw [pause, run_act]
  exact run_bind_of_some hlog _

lemma streams_pause {cause : String} {y : Option (Except CancelReason Unit)}
    (h : (pause o log ctx n maxTries cause).run w = (y, v)) : v.streams = w.streams := by
  obtain ⟨records, hpause⟩ := run_pause o log ctx n maxTries cause w
  rw [hpause] at h
  exact streams_run (w := { w with drawn := w.drawn + 1, records })
    (all_waitFor trivial (fun _ => trivial) trivial _) h

/-- A pause that is over has been as long as it should. -/
lemma now_of_pause {cause : String}
    (h : (pause o log ctx n maxTries cause).run w = (some (.ok ()), v)) :
    waitEnd w.now (o.delay n (RetryOptions.jitter w.nextDraw)) ≤ v.now ∧
      v.now ≤ max w.now
        (Instant.tick (waitEnd w.now (o.delay n (RetryOptions.jitter w.nextDraw)))) := by
  set delay := o.delay n (RetryOptions.jitter w.nextDraw)
  obtain ⟨records, hpause⟩ := run_pause o log ctx n maxTries cause w
  rw [hpause] at h
  have h : ((expect (Instant.wakeUp? w.now delay)).bind fun t =>
      (Activity.sleepUntil t).untilDone ctx).run { w with drawn := w.drawn + 1, records } =
        (some (.ok ()), v) := h
  rw [wakeUp?_eq] at h
  split at h
  · rw [bind_expect_some, untilDone, run_act, World.perform_endings] at h
    split at h
    · cases (Prod.mk.inj h).1
    · exact now_of_run_sleepUntil (w := { w with drawn := w.drawn + 1, records })
        (run_of_run_watch h)
  · cases (Prod.mk.inj h).1

/-- A pause that breaks off has no end that the clock can name. -/
lemma last_lt_of_pause {cause : String}
    (h : (pause o log ctx n maxTries cause).run w = (none, v)) :
    Instant.last < waitEnd w.now (o.delay n (RetryOptions.jitter w.nextDraw)) := by
  set delay := o.delay n (RetryOptions.jitter w.nextDraw)
  obtain ⟨records, hpause⟩ := run_pause o log ctx n maxTries cause w
  rw [hpause] at h
  have h : ((expect (Instant.wakeUp? w.now delay)).bind fun t =>
      (Activity.sleepUntil t).untilDone ctx).run { w with drawn := w.drawn + 1, records } =
        (none, v) := h
  rw [wakeUp?_eq] at h
  split at h
  · rw [bind_expect_some] at h
    obtain ⟨_, _, hends⟩ := ((Unbroken.sleepUntil _).untilDone ctx).run_ends
      ((Timed.sleepUntil _).untilDone ctx) { w with drawn := w.drawn + 1, records }
    exact nomatch hends.symm.trans h
  · exact Nat.lt_of_not_le ‹_›

/-- A pause that the caller has ended tells why. -/
lemma reasonIn_of_pause {cause : String} {reason : CancelReason}
    (h : (pause o log ctx n maxTries cause).run w = (some (.error reason), v)) :
    ctx.reasonIn v = some reason :=
  (safe_pause (P := fun _ _ _ => True) maxTries cause w).result h

/-! ## Rounds of a streamed request -/

/-- A stage below obtains the stream in a slot during the try. -/
def Round.Takes (slot : ℕ) (o : RetryOptions) (next : Stage) (ctx : Context) (r : Request)
    (t : Round) : Prop :=
  ∃ e ∈ (attempt o next ctx t.number r).trace t.start, e.obtains slot = true

lemma canReplay_of_peek (hb : r.body = .stream slot) (h : w.streams.peek slot = some chunks) :
    r.body.canReplay w.streams = true := by
  rw [hb, Body.canReplay, h, Option.isSome_some]

/-- The caller has stopped to wait, and there are no more rounds. -/
def Stopped (ctx : Context) (rest : List Round) (x : Option Outcome) (v : World) : Prop :=
  rest = [] ∧ ∃ reason, x = some (.error (.cancelled reason)) ∧ ctx.reasonIn v = some reason

/-- The round `s` follows on the round `t`: it has the next number and begins when the wait after
`t` is over, up to the next whole millisecond, with the streams that `t` has left. -/
structure Round.Follows (o : RetryOptions) (s t : Round) : Prop where
  number : s.number = t.number + 1
  now_ge : waitEnd t.finish.now (t.delay o) ≤ s.start.now
  now_le : s.start.now ≤ max t.finish.now (Instant.tick (waitEnd t.finish.now (t.delay o)))
  streams : s.start.streams = t.finish.streams

/-- The clock cannot name the end of the wait after the round, so that there is no other. -/
def Round.LosesTime (o : RetryOptions) (t : Round) (rest : List Round) (x : Option Outcome) :
    Prop :=
  Instant.last < waitEnd t.finish.now (t.delay o) ∧ rest = [] ∧ x = none

/-- The clock cannot name the end of the time for the try: it breaks off without a call. -/
structure Round.IsUnnamed (o : RetryOptions) (below : Callee) (ctx : Context) (r : Request)
    (t : Round) : Prop where
  last_lt : Instant.last < t.start.now + o.tryTimeout.nanos
  calls : t.calls o below.stage ctx r = []
  outcome : t.outcome = none

/-- A guarded call of a stage whose calls are noted is one call. -/
lemma calls_of_enters {call : Call} (h : Enters o ctx r n w call) :
    (guarded o below.stage ctx n call).calls call.world = [call] := by
  rw [calls_eq_seen, seen_guarded seesEntries_call.overlooks h.isTry.live,
    Callee.seen_within overlooks_call (fun _ => trivial) trivial (fun m => below.quiet m _ _)]
  rfl

lemma isUnnamed_of_lt {t : Round} (ht : t.IsOf o below.stage ctx r)
    (hreplay : r.body.canReplay t.start.streams = true)
    (hlast : Instant.last < t.start.now + o.tryTimeout.nanos) : t.IsUnnamed o below ctx r := by
  obtain ⟨⟨idsMade, hrun⟩, hseen⟩ := attempt_of_lt o below.stage ctx t.number hreplay hlast
  refine ⟨hlast, ?_, (Prod.mk.inj (ht.run_eq.symm.trans hrun)).1⟩
  rw [Round.calls, calls_eq_seen, hseen _ seesEntries_call.overlooks]

/-- A try for which there is a copy of the request makes its call, if the clock can name its end. -/
lemma calls_of_canReplay {t : Round} (ht : t.IsOf o below.stage ctx r)
    (hreplay : r.body.canReplay t.start.streams = true)
    (hnamed : t.start.now + o.tryTimeout.nanos ≤ Instant.last) :
    ∃ call, t.calls o below.stage ctx r = [call] ∧ Enters o ctx r t.number t.start call := by
  obtain ⟨call, henters, -, hseen⟩ :=
    exists_enters o below.stage t.number ht.live hreplay hnamed
  refine ⟨call, ?_, henters⟩
  rw [Round.calls, calls_eq_seen, hseen _ seesEntries_call.overlooks, ← calls_eq_seen,
    calls_of_enters henters]

/-- While the stream is there a try makes its call and the stage below finds it, unless the clock
cannot name the end of the try. -/
lemma calls_of_peek {t : Round} (ht : t.IsOf o below.stage ctx r) (hb : r.body = .stream slot)
    (h : t.start.streams.peek slot = some chunks) :
    (∃ call, t.calls o below.stage ctx r = [call] ∧
      IsTry o ctx r t.number call.context call.request call.world ∧
      call.world.streams.peek slot = some chunks) ∨ t.IsUnnamed o below ctx r := by
  have hreplay := canReplay_of_peek hb h
  rcases Nat.lt_or_ge Instant.last (t.start.now + o.tryTimeout.nanos) with hlast | hnamed
  · exact Or.inr (isUnnamed_of_lt ht hreplay hlast)
  · obtain ⟨call, hcall, henters⟩ := calls_of_canReplay ht hreplay hnamed
    exact Or.inl ⟨call, hcall, henters.isTry, by rw [henters.streams, h]⟩

/-- Without the stream a try comes to nothing, and nothing is called. -/
lemma of_peek_none {t : Round} (ht : t.IsOf o next ctx r) (hb : r.body = .stream slot)
    (h : t.start.streams.peek slot = none) :
    t.outcome = some (.error (.bodyNotReplayable t.number)) ∧ t.finish = t.start ∧
      t.calls o next ctx r = [] := by
  have hreplay : r.body.canReplay t.start.streams = false := by
    rw [hb, Body.canReplay, h, Option.isSome_none]
  obtain ⟨hrun, htrace⟩ := attempt_of_not_canReplay o next ctx t.number hreplay
  have heq := ht.run_eq
  rw [hrun, Prod.mk.injEq] at heq
  refine ⟨heq.1.symm, heq.2.symm, ?_⟩
  rw [Round.calls, Activity.calls, htrace]
  rfl

namespace History

variable {rounds past rest : List Round} {s t : Round}

/-- A round that does not take the stream hands it on to the next. -/
lemma peek_next (h : History o log next ctx r maxTries n w (t :: s :: rest) x v)
    (ht : ¬ t.Takes slot o next ctx r) :
    s.start.streams.peek slot = t.start.streams.peek slot := by
  obtain ⟨-, -, hround, -⟩ := h.of_cons
  obtain ⟨-, cause, -, hpause, -⟩ := h.of_cons_cons
  have hkept : t.finish.streams.peek slot = t.start.streams.peek slot := by
    refine peek_run hround.run_eq fun e he => ?_
    by_contra htakes
    exact ht ⟨e, he, by simpa using htakes⟩
  rw [streams_pause hpause, hkept]

/-- A stream that no round before has taken is where it was. -/
lemma peek_start (h : History o log next ctx r maxTries n w (past ++ t :: rest) x v)
    (hpast : ∀ s ∈ past, ¬ s.Takes slot o next ctx r) :
    t.start.streams.peek slot = w.streams.peek slot := by
  induction past generalizing n w with
  | nil =>
    obtain ⟨-, rfl, -⟩ := h.of_cons
    rfl
  | cons s past ih =>
    have hs : ¬ s.Takes slot o next ctx r := hpast s List.mem_cons_self
    have hrest : ∀ s' ∈ past, ¬ s'.Takes slot o next ctx r :=
      fun s' hs' => hpast s' (List.mem_cons_of_mem _ hs')
    obtain ⟨-, rfl, -⟩ := h.of_cons
    cases past with
    | nil => exact h.peek_next hs
    | cons s' past =>
      obtain ⟨-, -, -, -, h'⟩ := h.of_cons_cons
      rw [ih h' hrest, h.peek_next hs]

/-- What comes after a failure that may pass by itself, if another try is allowed: the caller stops
to wait, or there is a round when the pause is over, or the pause has no end that the clock can
name. -/
lemma next_round {y : Outcome} (h : History o log next ctx r maxTries n w (past ++ t :: rest) x v)
    (hy : t.outcome = some y) (hretry : isRetryable y = true) (hlt : t.number < maxTries) :
    Stopped ctx rest x v ∨ (∃ s rest', rest = s :: rest' ∧ s.Follows o t) ∨
      t.LosesTime o rest x := by
  obtain ⟨cause, hcause⟩ := cause?_eq_some hretry
  obtain ⟨-, -, -, ⟨hnone, -⟩ | ⟨cause', -, hends⟩⟩ := h.of_append.of_cons
  · rw [hy, Option.bind_some, hcause] at hnone
    cases hnone
  · rcases hends with ⟨hlast, -⟩ | ⟨-, hnil, reason, hx, hpause⟩ | ⟨-, hnil, hx, hpause⟩ |
      ⟨-, u, hpause, hrest⟩
    · omega
    · exact Or.inl ⟨hnil, reason, hx, reasonIn_of_pause hpause⟩
    · exact Or.inr (Or.inr ⟨last_lt_of_pause hpause, hnil, hx⟩)
    · cases rest with
      | nil =>
        obtain ⟨rfl, reason, hreason, hx⟩ := hrest.of_nil
        exact Or.inl ⟨rfl, reason, hx, hreason⟩
      | cons s rest =>
        obtain ⟨hnumber, rfl, -⟩ := hrest.of_cons
        obtain ⟨hle, hge⟩ := now_of_pause hpause
        exact Or.inr (Or.inl ⟨s, rest, rfl, hnumber, hle, hge, streams_pause hpause⟩)

/-- The round after the one that takes the stream is the last: it makes no call, and its failure is
returned when it begins. -/
lemma after_takes (hb : r.body = .stream slot)
    (h : History o log next ctx r maxTries n w (past ++ t :: s :: rest) x v)
    (htakes : t.Takes slot o next ctx r) :
    rest = [] ∧ s.calls o next ctx r = [] ∧ v = s.start ∧
      x = some (.error (.bodyNotReplayable (t.number + 1))) := by
  obtain ⟨-, cause, -, hpause, hrest⟩ := h.of_append.of_cons_cons
  obtain ⟨hnumber, -, hs, hends⟩ := hrest.of_cons
  have hgone : s.start.streams.peek slot = none := by
    obtain ⟨e, he, hobtains⟩ := htakes
    rw [streams_pause hpause]
    exact peek_run_of_obtains h.of_append.of_cons.2.2.1.run_eq he hobtains
  obtain ⟨hout, hfinish, hcalls⟩ := of_peek_none hs hb hgone
  -- a failure to copy the request does not pass by itself
  have hfinal : s.outcome.bind cause? = none := by
    rw [hout]
    rfl
  rcases hends with ⟨-, hnil, hx, hv⟩ | ⟨cause', hcause', -⟩
  · exact ⟨hnil, hcalls, hv.trans hfinish, by rw [hx, hout, hnumber]⟩
  · rw [hfinal] at hcause'
    cases hcause'

end History

/-! ## The policy -/

/-- How the rounds of a request with a stream go, of which some come to an outcome in a world. -/
structure StreamedRun (o : RetryOptions) (below : Callee) (ctx : Context) (r : Request)
    (maxTries slot : ℕ) (chunks : List (List UInt8)) (rounds : List Round) (x : Option Outcome)
    (v : World) : Prop where
  /-- As long as no round has taken the stream, the next one makes its call, with the stream to be
  read, unless the clock cannot name the end of the time for it. -/
  readable : ∀ past t rest, rounds = past ++ t :: rest →
    (∀ s ∈ past, ¬ s.Takes slot o below.stage ctx r) →
    (∃ call, t.calls o below.stage ctx r = [call] ∧
      IsTry o ctx r t.number call.context call.request call.world ∧
      call.world.streams.peek slot = some chunks) ∨ t.IsUnnamed o below ctx r
  /-- After a failure that may pass by itself there is another round, if tries are left and the
  caller still waits, unless the clock cannot name the end of the wait for it. -/
  goesOn : ∀ past t rest y, rounds = past ++ t :: rest → t.outcome = some y →
    isRetryable y = true → t.number < maxTries →
    Stopped ctx rest x v ∨ (∃ s rest', rest = s :: rest' ∧ s.Follows o t) ∨ t.LosesTime o rest x
  /-- The round after the one that takes the stream is the last; it makes no call, and its failure
  is returned when it begins. -/
  gone : ∀ past t s rest, rounds = past ++ t :: s :: rest → t.Takes slot o below.stage ctx r →
    rest = [] ∧ s.calls o below.stage ctx r = [] ∧ v = s.start ∧
      x = some (.error (.bodyNotReplayable (t.number + 1)))

lemma History.streamedRun {rounds : List Round} (hb : r.body = .stream slot)
    (hstream : w.streams.peek slot = some chunks)
    (h : History o log below.stage ctx r maxTries n w rounds x v) :
    StreamedRun o below ctx r maxTries slot chunks rounds x v where
  readable := by
    rintro past t rest rfl hpast
    exact calls_of_peek (h.isOf t (by simp)) hb ((h.peek_start hpast).trans hstream)
  goesOn := by
    rintro past t rest y rfl hy hretry hlt
    exact h.next_round hy hretry hlt
  gone := by
    rintro past t s rest rfl htakes
    exact h.after_takes hb htakes

/-- **A request with a stream is tried until its stream is taken.**  Whatever is below: the run goes
through rounds, each with its number, and of these the calls are made.  A try is made with the
stream to be read as long as none before has taken it; after one that has, no more calls are made,
and the request is found to have no copy for the next try.  Nobody gets the stream twice. -/
theorem policy_streamed_run (o : RetryOptions) (below : Callee) (log : Logger) (ctx : Context)
    (r : Request) (w : World) (slot : ℕ) (chunks : List (List UInt8))
    (hbody : r.body = .stream slot) (hstream : w.streams.peek slot = some chunks) :
    ∃ rounds x v, (send o below log ctx r).run w = (x, v) ∧
      History o.withDefaults log below.stage ctx r o.withDefaults.maxTries.toNat 1 w rounds x v ∧
      rounds.map (·.number) = List.range' 1 rounds.length ∧
      (send o below log ctx r).calls w =
        rounds.flatMap (Round.calls o.withDefaults below.stage ctx r) ∧
      StreamedRun o.withDefaults below ctx r o.withDefaults.maxTries.toNat slot chunks rounds x v ∧
      (((send o below log ctx r).trace w).filter (Event.obtains slot)).length ≤ 1 := by
  obtain ⟨rounds, x, v, hrun, hhist, hseen⟩ := history_send o below.stage log ctx r w
  have hcalls : (send o below log ctx r).calls w =
      rounds.flatMap (Round.calls o.withDefaults below.stage ctx r) := by
    rw [calls_eq_seen, send, hseen _ seesEntries_call]
    exact List.flatMap_congr fun t _ => seenWithNote_call t
  exact ⟨rounds, x, v, hrun, hhist, hhist.numbers, hcalls, hhist.streamedRun hbody hstream,
    obtains_at_most_once _ w slot⟩

/-- A stage that takes the payload of a request and has no time then. -/
def takingPayload : Callee where
  answer _ c r := .act (.payload r c.attempt) fun
    | .ok _ => .done (.ok (.new busyStatus r))
    | .error e => .done (.error e)
  quiet _ _ _ := ⟨trivial, fun x => by cases x <;> trivial⟩

/-- A fresh world with one stream. -/
def streamWorld : World := { World.start [] with streams := (Streams.empty.put [[1, 2]]).2 }

/-- A request with the stream. -/
def streamedRequest : Request := { Request.new "PUT" default with body := .stream 0 }

/-- Sending that request to that stage. -/
def sendStreamed : Activity Outcome :=
  send ⟨.fixed, 3, .ofSecs 1, .ofMillis 5, .ofSecs 1⟩ takingPayload ⟨.discard, none⟩
    (.ofToken ⟨[0]⟩) streamedRequest

/-- The first try takes the stream, so that there is one call, and the second try fails. -/
theorem policy_streamed_run_takingPayload :
    streamedRequest.body = .stream 0 ∧ streamWorld.streams.peek 0 = some [[1, 2]] ∧
    (sendStreamed.calls streamWorld).length = 1 ∧
    ∃ rounds v, sendStreamed.run streamWorld = (some (.error (.bodyNotReplayable 2)), v) ∧
      StreamedRun (RetryOptions.withDefaults ⟨.fixed, 3, .ofSecs 1, .ofMillis 5, .ofSecs 1⟩)
        takingPayload (.ofToken ⟨[0]⟩) streamedRequest 3 0 [[1, 2]] rounds
        (some (.error (.bodyNotReplayable 2))) v := by
  have hbody : streamedRequest.body = .stream 0 := rfl
  have hstream : streamWorld.streams.peek 0 = some [[1, 2]] := rfl
  have hresult : (sendStreamed.run streamWorld).1 = some (.error (.bodyNotReplayable 2)) := by
    decide +kernel
  obtain ⟨rounds, x, v, hrun, -, -, -, hstreamed, -⟩ :=
    policy_streamed_run ⟨.fixed, 3, .ofSecs 1, .ofMillis 5, .ofSecs 1⟩ takingPayload
      ⟨.discard, none⟩ (.ofToken ⟨[0]⟩) streamedRequest streamWorld 0 [[1, 2]] hbody hstream
  obtain rfl : x = some (.error (.bodyNotReplayable 2)) := by
    rw [sendStreamed, hrun] at hresult
    exact hresult
  exact ⟨hbody, hstream, by decide +kernel, rounds, v, hrun, hstreamed⟩

/-- Sending that request to a stage that leaves the stream alone and has no time for the first call,
with a wait after it at whose end the clock can no longer name the end of another try. -/
def sendStreamedLate : Activity Outcome :=
  send ⟨.fixed, 2, .ofSecs (2 ^ 63 - 400_000_001), .ofSecs 900_000_000, .ofSecs 900_000_000⟩
    busyOnce ⟨.discard, none⟩ (.ofToken ⟨[0]⟩) streamedRequest

/-- There is no second call then, although the caller waits and the stream is there. -/
theorem exists_stream_without_another_try :
    (sendStreamedLate.calls streamWorld).map (·.context.attempt) = [1] ∧
    (sendStreamedLate.run streamWorld).1 = none ∧
    (sendStreamedLate.run streamWorld).2.now = 900_000_000_000_000_000 ∧
    (sendStreamedLate.run streamWorld).2.streams.peek 0 = some [[1, 2]] ∧
    (sendStreamedLate.run streamWorld).2.forest.isCancelled ⟨[0]⟩ = false := by
  decide +kernel

end Retry

end QueueClient
