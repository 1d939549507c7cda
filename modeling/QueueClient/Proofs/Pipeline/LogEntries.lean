/-
# The log tells the run

A default pipeline that logs everything leaves, for each round of the loop over tries, the entries
of its try and the entry about the round.  Those of a try come from the stage in front of the
sender: one when a request goes out, that is when the try has its copy and the credential has passed
it in time, and one about its reply, if there is a reply in time (`RequestLog.entriesOf`).

The stage is followed under the two things that can end a try, the caller and the timer
(`Activity.within`), and what is seen of a sequence under them is what is seen of its parts as far
as the run gets (`Reaches`, `Callee.reply?`).  Everything is said of views of runs, of which the
calls of the sender and the entries are two.
-/
import QueueClient.Proofs.Pipeline.LogFilter

namespace QueueClient

open Activity Retry

/-- The act neither leaves an entry nor is the note of a call. -/
def Act.IsSilent (a : Act) : Prop := a.LeavesNoEntry ∧ a.IsQuiet

lemma Act.IsRoutine.isSilent {a : Act} (h : a.IsRoutine) : a.IsSilent := by
  cases a with
  | record rs => exact absurd h id
  | arrive c r => exact absurd h id
  | _ => exact ⟨trivial, trivial⟩

lemma Activity.All.and {α : Type} {P Q : Act → Prop} {p : Activity α} (hP : p.All P)
    (hQ : p.All Q) : p.All fun a => P a ∧ Q a := by
  induction p with
  | done a => trivial
  | act a k ih => exact ⟨⟨hP.1, hQ.1⟩, fun x => ih x (hP.2 x) (hQ.2 x)⟩
  | wait wake k ih => exact ih hP hQ
  | never | abort => trivial

/-! ## Replies in time -/

namespace Callee

variable {callee : Callee} {ctx : Context} {call : Call} {x : Outcome} {v : World}

/-- What becomes of a call while the caller waits and the time lasts that its context leaves, and
the world then. -/
def guardedRun (callee : Callee) (ctx : Context) (call : Call) :
    Option (Except CancelReason (Option Outcome)) × World :=
  ((callee.stage call.context call.request).within (call.context.deadline.getD 0) ctx).run
    call.world

/-- What the stage comes to by itself in a call, and the world then. -/
def ownRun (callee : Callee) (call : Call) : Option Outcome × World :=
  (callee.stage call.context call.request).run call.world

/-- The reply in a call, if there is one: what the stage comes to before the caller is gone and
before the time is over, and the world then. -/
def reply? (callee : Callee) (ctx : Context) (call : Call) : Option (Outcome × World) :=
  match callee.guardedRun ctx call with
  | (some (.ok (some x)), v) => some (x, v)
  | _ => none

/-- What is known about a call with a reply or without one. -/
inductive Replies (callee : Callee) (ctx : Context) (call : Call) :
    Option (Outcome × World) → Prop
  /-- The reply is what the stage comes to by itself, in time, and the caller has not waited for too
  long. -/
  | replied {x : Outcome} {v : World}
    (guarded : callee.guardedRun ctx call = (some (.ok (some x)), v))
    (own : callee.ownRun call = (some x, v)) (waits : ctx.isOverdue v.now = false)
    (in_time : v.now ≤ max call.world.now (Instant.tick (call.context.deadline.getD 0))) :
    Replies callee ctx call (some (x, v))
  /-- The time is over, and the stage would not have come to anything before. -/
  | late {v : World} (guarded : callee.guardedRun ctx call = (some (.ok none), v))
    (past : call.context.deadline.getD 0 ≤ v.now)
    (own : ∀ x u, callee.ownRun call = (some x, u) → call.context.deadline.getD 0 ≤ u.now) :
    Replies callee ctx call none
  /-- The caller is gone, and the stage would not have come to anything before. -/
  | gone {v : World} {reason : CancelReason}
    (guarded : callee.guardedRun ctx call = (some (.error reason), v))
    (done : ctx.reasonIn v = some reason)
    (own : ∀ x u, callee.ownRun call = (some x, u) → v.now ≤ u.now) : Replies callee ctx call none
  /-- The stage breaks off, as it does by itself. -/
  | brokeOff {v : World} (guarded : callee.guardedRun ctx call = (none, v))
    (own : (callee.stage call.context call.request).aborts call.world = true) :
    Replies callee ctx call none

/-- Every call has a reply or not. -/
lemma replies_reply? (callee : Callee) (hlive : ctx.isOverdue call.world.now = false) :
    callee.Replies ctx call (callee.reply? ctx call) := by
  rcases hy : callee.guardedRun ctx call with ⟨_ | y, v⟩
  · rw [reply?, hy]
    exact .brokeOff hy (aborts_of_run_within hy)
  have hwatched := watched_of_run_within hlive hy
  rw [reply?, hy]
  rcases y with reason | _ | x
  · exact .gone hy hwatched fun x u hown => now_le_of_run_within_error hy hown
  · obtain ⟨hpast, hown⟩ := late_of_run_within hy
    exact .late hy hpast hown
  · exact .replied hy (run_of_run_within hy) hwatched.2 (now_le_of_run_within_some hy)

end Callee

/-! ## The request log -/

namespace RequestLog

variable {γ : Type} {f : Event → List γ} {o : RequestLogOptions} {next : Stage} {callee : Callee}
  {g : Logger} {ctx c : Context} {q : Request} {x : Outcome} {v w : World}

/-- The threshold that counts: one of no time does not. -/
def threshold (o : RequestLogOptions) : Option Duration := o.slowThreshold.filter (! ·.isZero)

/-- The level and the text about a request that goes out. -/
def outgoing (c : Context) (q : Request) : Level × String :=
  (.info, outgoingText (Subject.of c q))

/-- The level and the text about what a call has come to, in the world then. -/
def closing (o : RequestLogOptions) (call : Call) (x : Outcome) (v : World) : Level × String :=
  (outcomeLevel (threshold o) x (Instant.since v.now call.world.now),
    closingText (Subject.of call.context call.request) (threshold o) x
      (Instant.since v.now call.world.now))

/-- The entries about a call: one that it goes out, and one about its reply, if there is one. -/
def entriesOf (o : RequestLogOptions) (callee : Callee) (ctx : Context) (call : Call) :
    List (Level × String) :=
  outgoing call.context call.request ::
    (callee.reply? ctx call).toList.map fun reply => closing o call reply.1 reply.2

/-- The record of a level and a text. -/
def asRecord (e : Level × String) : LogRecord := .entry e.1 e.2

/-- What a call adds to a run, as far as it can be seen. -/
def eventsOf (o : RequestLogOptions) (callee : Callee) (ctx : Context) (call : Call) :
    List Event :=
  .acts (.record [asRecord (outgoing call.context call.request)]) call.world ::
    .acts (.arrive call.context call.request) call.world ::
      (callee.reply? ctx call).toList.map fun reply =>
        .acts (.record [asRecord (closing o call reply.1 reply.2)]) reply.2

/-- The call that goes out in a world: the entry about it has been left. -/
def callIn (w : World) (c : Context) (q : Request) : Call :=
  ⟨c, q, { w with records := w.records ++ [asRecord (outgoing c q)] }⟩

lemma outcomeLevel_ne_off (t : Option Duration) (x : Outcome) (elapsed : Duration) :
    outcomeLevel t x elapsed ≠ .off := by
  cases x with
  | error e => simp [outcomeLevel]
  | ok response =>
    simp only [outcomeLevel]
    split
    · simp
    · split <;> simp

lemma log_unfiltered {l : Level} (h : l ≠ .off) (g : Logger) (text : String) :
    g.unfiltered.log l text = .act (.record [.entry l text]) .done := by
  have haccepts : g.unfiltered.accepts l = true := by
    simp [Logger.accepts, Logger.unfiltered, Sink.accepts, h]
  have hwrite : g.unfiltered.write l text = [.entry l text] := if_neg h
  rw [Logger.log, if_pos haccepts, hwrite, Activity.perform]

/-- What becomes of an outcome: the time is taken, and the entry is left. -/
def close (o : RequestLogOptions) (c : Context) (q : Request) (began : ℕ) (x : Outcome) :
    Activity Outcome :=
  .act .now fun ended =>
    .act (.record [.entry (outcomeLevel (threshold o) x (Instant.since ended began))
      (closingText (Subject.of c q) (threshold o) x (Instant.since ended began))]) fun _ => .done x

lemma stage_unfiltered (o : RequestLogOptions) (next : Stage) (g : Logger) (c : Context)
    (q : Request) :
    stage o next g.unfiltered c q = .act (.record [asRecord (outgoing c q)]) fun _ =>
      .act .now fun began => (next c q).bind (close o c q began) := by
  have hinfo : Level.info ≠ .off := by decide
  simp only [stage, log_unfiltered hinfo, log_unfiltered (outcomeLevel_ne_off _ _ _)]
  rfl

/-- What is seen of the stage under a timer and for a caller: what its call adds to the run. -/
lemma seen_stage (hf : Overlooks f Act.IsSilent)
    (hanywhere : ∀ rs u v, f (.acts (.record rs) u) = f (.acts (.record rs) v)) {t : ℕ}
    (hdeadline : c.deadline = some t) (hcallee : ∀ n, (callee.answer n c q).All Act.IsSilent)
    (w : World) :
    ((stage o callee.stage g.unfiltered c q).within t ctx).seen f w =
      (eventsOf o callee ctx (callIn w c q)).flatMap f := by
  set u := (callIn w c q).world with hu
  -- the entry about the request comes first, then the call under the guards
  have hstage : ((stage o callee.stage g.unfiltered c q).within t ctx).seen f w =
      f (.acts (.record [asRecord (outgoing c q)]) u) ++
        (((callee.stage c q).bind (close o c q u.now)).within t ctx).seen f u := by
    rw [stage_unfiltered, hanywhere _ u w]
    show (Activity.act (.record [asRecord (outgoing c q)]) fun _ => .act .now fun began =>
      ((callee.stage c q).bind (close o c q began)).within t ctx).seen f w = _
    rw [seen_act, hf.seen_act (a := .now) ⟨trivial, trivial⟩]
    rfl
  have hcall : ((callee.stage c q).within t ctx).seen f u = f (.acts (.arrive c q) u) :=
    Callee.seen_within hf (fun _ => ⟨trivial, trivial⟩) ⟨trivial, trivial⟩ hcallee t u
  have hget : (callIn w c q).context.deadline.getD 0 = t := by
    show c.deadline.getD 0 = t
    rw [hdeadline, Option.getD_some]
  have hguarded : callee.guardedRun ctx (callIn w c q) =
      ((callee.stage c q).within t ctx).run u := by
    rw [Callee.guardedRun, hget]
    rfl
  rw [hstage, within_bind, eventsOf, Callee.reply?, hguarded]
  rcases hy : ((callee.stage c q).within t ctx).run u with ⟨_ | reason | _ | x, v⟩
  · rw [seen_bind_of_none hy, hcall]
    exact congrArg (f _ ++ ·) (List.append_nil _).symm
  · rw [seen_bind hy, hcall]
    rfl
  · rw [seen_bind hy, hcall]
    rfl
  · -- the clock stands still until the entry about the outcome is left
    have hclose : ((close o c q u.now x).within t ctx).seen f v =
        f (.acts (.record [asRecord (closing o (callIn w c q) x v)]) v) := by
      show (Activity.act .now fun ended => .act (.record [_]) fun _ =>
        (done x : Activity Outcome).within t ctx).seen f v = _
      rw [hf.seen_act (a := .now) ⟨trivial, trivial⟩, seen_act]
      exact List.append_nil _
    rw [seen_bind hy, hcall, carryOn, hclose]
    show _ = f _ ++ (f _ ++ (f _ ++ []))
    rw [List.append_nil]
    rfl

end RequestLog

/-! ## What the entries say -/

/-- The outcome is a failure: an error, or a response that says so, except for four statuses that
are all in a day's work. -/
def IsFailed : Outcome → Prop
  | .error _ => True
  | .ok r => (500 ≤ r.status.code ∧ r.status.code < 600) ∨
    (400 ≤ r.status.code ∧ r.status.code < 500 ∧ r.status.code ∉ [404, 409, 412, 416])

instance : DecidablePred IsFailed
  | .error _ => inferInstanceAs (Decidable True)
  | .ok _ => inferInstanceAs (Decidable (_ ∨ _))

/-- The threshold that a reply has exceeded, if it has: one of no time does not count. -/
def exceeded? (o : RequestLogOptions) (elapsed : Duration) : Option Duration :=
  o.slowThreshold.filter fun t => 0 < t.nanos ∧ t < elapsed

/-- The entry that a request goes out. -/
def outgoingEntry (n : ℕ) (q : Request) : Level × String :=
  (.info, "==> OUTGOING REQUEST (try=" ++ toString n ++ ") " ++ q.method ++ " " ++
    (RequestLog.redact q.url).text ++ " client-request-id=" ++ q.clientRequestId?.getD "-")

/-- How often the request has been tried and how long it has taken, with a remark if that was too
long. -/
def measured (o : RequestLogOptions) (n : ℕ) (elapsed : Duration) : String :=
  "(try=" ++ toString n ++ ", duration=" ++ elapsed.compact ++
    ((exceeded? o elapsed).elim "" fun t => " [SLOW >" ++ t.compact ++ "]") ++ ")"

/-- The entry about a reply that took some time: an error, a warning or for information. -/
def closingEntry (o : RequestLogOptions) (n : ℕ) (q : Request) (x : Outcome) (elapsed : Duration) :
    Level × String :=
  (if IsFailed x then .error else if (exceeded? o elapsed).isSome then .warning else .info,
    match x with
    | .ok r => "<== " ++ toString r.status.code ++ " " ++ q.method ++ " " ++
      (RequestLog.redact q.url).text ++ " " ++ measured o n elapsed ++ " request-id=" ++
      r.serviceRequestId?.getD "-" ++ " client-request-id=" ++ q.clientRequestId?.getD "-"
    | .error e => "<== REQUEST ERROR " ++ q.method ++ " " ++ (RequestLog.redact q.url).text ++
      " " ++ measured o n elapsed ++ " client-request-id=" ++ q.clientRequestId?.getD "-" ++ ": " ++
      e.text)

/-- What is said of an outcome in the entry about a try that failed. -/
def causeText : Outcome → String
  | .ok r => "status " ++ toString r.status.code
  | .error e => e.text

/-- The entry about a failure that may pass by itself: there will be another try after a wait, or
none. -/
def failureEntry (n maxTries : ℕ) (x : Outcome) (delay : Duration) : Level × String :=
  (.info,
    if n < maxTries then
      "retry: try " ++ toString n ++ " of " ++ toString maxTries ++ " failed (" ++ causeText x ++
        "); retrying in " ++ delay.compact
    else "retry: giving up after " ++ toString n ++ " tries; last failure: " ++ causeText x)

lemma isFailure_iff (r : Response) : r.status.isFailure = true ↔ IsFailed (.ok r) := by
  simp only [Status.isFailure, Status.isServerError, Status.isClientError, Status.isRoutine,
    IsFailed, Bool.or_eq_true, Bool.and_eq_true, decide_eq_true_eq, Bool.not_eq_true',
    List.contains_eq_mem, decide_eq_false_iff_not, and_assoc]

lemma exceeded?_eq (o : RequestLogOptions) (elapsed : Duration) :
    exceeded? o elapsed = (RequestLog.threshold o).filter (· < elapsed) := by
  rw [exceeded?, RequestLog.threshold, Option.filter_filter]
  congr 1
  funext t
  rw [Duration.isZero, Bool.decide_and]
  cases t.nanos <;> rfl

lemma isSome_exceeded? (o : RequestLogOptions) (elapsed : Duration) :
    (exceeded? o elapsed).isSome = (RequestLog.threshold o).any (· < elapsed) := by
  rw [exceeded?_eq]
  cases RequestLog.threshold o with
  | none => rfl
  | some t => by_cases h : t < elapsed <;> simp [h]

lemma slowRemark_eq (o : RequestLogOptions) (elapsed : Duration) :
    RequestLog.slowRemark (RequestLog.threshold o) elapsed =
      (exceeded? o elapsed).elim "" fun t => " [SLOW >" ++ t.compact ++ "]" := by
  rw [exceeded?_eq]
  cases RequestLog.threshold o with
  | none => rfl
  | some t =>
    rw [RequestLog.slowRemark, Option.filter_some]
    by_cases h : t < elapsed
    · rw [if_pos h, if_pos (decide_eq_true h), Option.elim_some]
    · rw [if_neg h, if_neg (by simpa using h), Option.elim_none]

lemma outgoing_eq {call : Call} (h : 0 < call.context.attempt) :
    RequestLog.outgoing call.context call.request =
      outgoingEntry call.context.attempt call.request := by
  have hmax : max call.context.attempt 1 = call.context.attempt := max_eq_left h
  unfold RequestLog.outgoing RequestLog.outgoingText RequestLog.Subject.of outgoingEntry
  dsimp only
  rw [hmax]

lemma closing_eq {call : Call} (h : 0 < call.context.attempt) (o : RequestLogOptions) (x : Outcome)
    (v : World) :
    RequestLog.closing o call x v = closingEntry o call.context.attempt call.request x
      (Instant.since v.now call.world.now) := by
  have hmax : max call.context.attempt 1 = call.context.attempt := max_eq_left h
  cases x with
  | error e =>
    unfold RequestLog.closing RequestLog.outcomeLevel RequestLog.closingText RequestLog.Subject.of
      closingEntry measured
    dsimp only
    rw [slowRemark_eq, hmax, if_pos (by trivial)]
  | ok r =>
    unfold RequestLog.closing RequestLog.outcomeLevel RequestLog.closingText RequestLog.Subject.of
      closingEntry measured
    dsimp only
    rw [slowRemark_eq, hmax, isSome_exceeded?]
    simp only [isFailure_iff]

lemma entriesOf_eq {call : Call} (h : 0 < call.context.attempt) (o : RequestLogOptions)
    (callee : Callee) (ctx : Context) :
    RequestLog.entriesOf o callee ctx call =
      outgoingEntry call.context.attempt call.request ::
        (callee.reply? ctx call).toList.map fun reply =>
          closingEntry o call.context.attempt call.request reply.1
            (Instant.since reply.2.now call.world.now) := by
  simp only [RequestLog.entriesOf, outgoing_eq h, closing_eq h]

lemma causeText_of_cause? {x : Outcome} {cause : String} (h : cause? x = some cause) :
    causeText x = cause := by
  cases x with
  | ok r =>
    rw [cause?, Option.ite_none_right_eq_some] at h
    exact Option.some.inj h.2
  | error e =>
    rw [cause?, Option.ite_none_right_eq_some] at h
    exact Option.some.inj h.2

/-- The text about a round is the one about its failure, if it may pass by itself. -/
lemma note_eq (o : RetryOptions) (maxTries : ℕ) (t : Round) :
    (t.note o maxTries).toList.map (fun text => (Level.info, text)) =
      (t.outcome.filter isRetryable).toList.map fun x =>
        failureEntry t.number maxTries x (t.delay o) := by
  rw [Round.note]
  cases t.outcome with
  | none => rfl
  | some x =>
    rw [Option.bind_some, Option.filter_some]
    cases hr : isRetryable x with
    | false =>
      rw [cause?_eq_none hr]
      rfl
    | true =>
      obtain ⟨cause, hcause⟩ := cause?_eq_some hr
      rw [hcause, ← causeText_of_cause? hcause]
      rfl

/-! ## Tries -/

/-- How far a try gets that begins in a world: to a call of the sender, if there is a copy of the
request, the clock can name the end of the try, and the credential passes the copy while the caller
waits and there is time. -/
inductive Reaches (credential : Credential) (o : RetryOptions) (ctx : Context) (r : Request) (n : ℕ)
    (w : World) : Option Call → Prop
  /-- There is no copy. -/
  | noCopy (gone : r.body.canReplay w.streams = false) : Reaches credential o ctx r n w none
  /-- The clock cannot name the end of the try. -/
  | unnamed (last_lt : Instant.last < w.now + o.tryTimeout.nanos) :
      Reaches credential o ctx r n w none
  /-- The credential does not pass the request. -/
  | refused {entered : Call} {y : Option (Except CancelReason (Option (Except Error Request)))}
    {v : World} (enters : Enters o ctx r n w entered)
    (signing : ((credential.passes entered.request).within (tryEnd o ctx entered.world.now) ctx).run
      entered.world = (y, v))
    (fails : ∀ q, y ≠ some (.ok (some (.ok q)))) : Reaches credential o ctx r n w none
  /-- It does. -/
  | signed {entered : Call} {q : Request} {v : World} (enters : Enters o ctx r n w entered)
    (signing : ((credential.passes entered.request).within (tryEnd o ctx entered.world.now) ctx).run
      entered.world = (some (.ok (some (.ok q))), v)) :
    Reaches credential o ctx r n w (some (RequestLog.callIn v entered.context q))

namespace Reaches

variable {credential : Credential} {o : RetryOptions} {ctx : Context} {r : Request} {n : ℕ}
  {w : World} {call : Call}

lemma attempt_eq (h : Reaches credential o ctx r n w (some call)) :
    call.context.attempt = n := by
  cases h with
  | signed enters signing => exact enters.attempt_eq

/-- The caller still waits when the sender is called. -/
lemma not_isOverdue (h : Reaches credential o ctx r n w (some call)) :
    ctx.isOverdue call.world.now = false := by
  cases h with
  | signed enters signing =>
    have hlive := Context.not_isOverdue_of_reasonIn enters.isTry.live
    exact (watched_of_run_within hlive signing).2

end Reaches

/-- The stages from the credential on. -/
abbrev signedStage (credential : Credential) (requestLog : RequestLogOptions) (callee : Callee)
    (log : Logger) : Stage :=
  credential.inFront (RequestLog.stage requestLog callee.stage log)

/-- **A try leaves the entries about its call**, if it gets so far, and no others. -/
theorem exists_reaches {credential : Credential}
    (hcredential : ∀ r, (credential.sign r).All Act.IsSilent) (o : RetryOptions)
    (requestLog : RequestLogOptions) {callee : Callee}
    (hcallee : ∀ n c r, (callee.answer n c r).All Act.IsSilent) (g : Logger) {ctx : Context}
    {w : World} (hlive : ctx.reasonIn w = none) (n : ℕ) (r : Request) :
    ∃ call?, Reaches credential o ctx r n w call? ∧
      ∀ {γ : Type} (f : Event → List γ), Overlooks f Act.IsSilent →
        (∀ rs u v, f (.acts (.record rs) u) = f (.acts (.record rs) v)) →
        (attempt o (signedStage credential requestLog callee g.unfiltered) ctx n r).seen f w =
          call?.toList.flatMap fun call =>
            (RequestLog.eventsOf requestLog callee ctx call).flatMap f := by
  cases hreplay : r.body.canReplay w.streams with
  | false =>
    refine ⟨none, .noCopy hreplay, fun f hf _ => ?_⟩
    rw [seen, (attempt_of_not_canReplay o _ ctx n hreplay).2, List.flatMap_singleton,
      hf.acts (.rewind r n) w ⟨trivial, trivial⟩]
    rfl
  | true =>
    rcases Nat.lt_or_ge Instant.last (w.now + o.tryTimeout.nanos) with hlast | hnamed
    · refine ⟨none, .unnamed hlast, fun f hf _ => ?_⟩
      exact (attempt_of_lt o _ ctx n hreplay hlast).2 f (hf.mono fun _ => Act.IsRoutine.isSilent)
    obtain ⟨entered, henters, -, hseen⟩ := exists_enters o
      (signedStage credential requestLog callee g.unfiltered) n hlive hreplay hnamed
    set t := tryEnd o ctx entered.world.now with ht
    set signing := (credential.passes entered.request).within t ctx
    have hsilent : signing.All Act.IsSilent :=
      All.within (fun _ => ⟨trivial, trivial⟩) ⟨trivial, trivial⟩
        (Credential.all_passes hcredential _)
    -- what follows on the signing
    set rest := carryOn fun signed => (Credential.forward
      (RequestLog.stage requestLog callee.stage g.unfiltered) entered.context signed).within t ctx
    have hguard : ∀ {γ : Type} (f : Event → List γ), Overlooks f Act.IsSilent →
        (attempt o (signedStage credential requestLog callee g.unfiltered) ctx n r).seen f w =
          (signing.bind rest).seen f entered.world := by
      intro γ f hf
      have hroutine : Overlooks f Act.IsRoutine := hf.mono fun _ => Act.IsRoutine.isSilent
      rw [hseen f hroutine, seen_guarded hroutine henters.isTry.live, signedStage,
        Credential.inFront, within_bind]
    rcases hy : signing.run entered.world with ⟨_ | reason | _ | e | q, u⟩
    · refine ⟨none, .refused henters hy (by rintro q ⟨⟩), fun f hf _ => ?_⟩
      rw [hguard f hf, seen_bind_of_none hy, hsilent.seen_eq_nil hf]
      rfl
    · refine ⟨none, .refused henters hy (by rintro q ⟨⟩), fun f hf _ => ?_⟩
      rw [hguard f hf, seen_bind hy, hsilent.seen_eq_nil hf]
      rfl
    · refine ⟨none, .refused henters hy (by rintro q ⟨⟩), fun f hf _ => ?_⟩
      rw [hguard f hf, seen_bind hy, hsilent.seen_eq_nil hf]
      rfl
    · refine ⟨none, .refused henters hy (by rintro q ⟨⟩), fun f hf _ => ?_⟩
      rw [hguard f hf, seen_bind hy, hsilent.seen_eq_nil hf]
      rfl
    · refine ⟨_, .signed henters hy, fun f hf hanywhere => ?_⟩
      rw [hguard f hf, seen_bind hy, hsilent.seen_eq_nil hf, List.nil_append]
      show ((RequestLog.stage requestLog callee.stage g.unfiltered entered.context q).within
        t ctx).seen f u = _
      rw [RequestLog.seen_stage hf hanywhere henters.deadline fun n => hcallee n _ _]
      exact (List.append_nil _).symm

/-! ## Pipelines -/

/-- The stages in front of the loop over tries prepare a request, and nothing is seen of it. -/
lemma exists_prepared (agent : HeaderValue) (next : Stage) (ctx : Context) (r : Request)
    (w : World) :
    ∃ q u, IsPrepared agent r q ∧
      (Telemetry.stage agent (RequestId.stage next) ctx r).run w = (next ctx q).run u ∧
      ∀ {γ : Type} (f : Event → List γ), Overlooks f Act.IsRoutine →
        (Telemetry.stage agent (RequestId.stage next) ctx r).seen f w = (next ctx q).seen f u := by
  have hcontains := contains_withAgent agent r
  rw [Telemetry.stage, RequestId.stage]
  split
  · rename_i h
    exact ⟨withAgent agent r, w, .of_withAgent (hcontains ▸ h), rfl, fun f _ => rfl⟩
  · rename_i h
    have hnone : r.headers.contains clientRequestIdHeader = false :=
      hcontains ▸ Bool.eq_false_iff.mpr h
    exact ⟨_, _, .of_mark hnone (w.perform .newId).1, rfl,
      fun f hf => hf.seen_act (a := .newId) trivial _ w⟩

/-- What the calls and the entries of a run have to do with its rounds. -/
structure LogTells (credential : Credential) (o : PipelineOptions) (callee : Callee) (log : Logger)
    (ctx : Context) (q : Request) (rounds : List Round) (calls : List Call)
    (entries : List (Level × String)) : Prop where
  /-- The rounds are numbered from 1 on. -/
  numbers : rounds.map (·.number) = List.range' 1 rounds.length
  /-- There are no more than tries are allowed. -/
  length_le : rounds.length ≤ o.retry.withDefaults.maxTries.toNat
  /-- The calls of the sender are those of the rounds. -/
  calls_eq : calls = rounds.flatMap (Round.calls o.retry.withDefaults
    (signedStage credential o.requestLog callee log) ctx q)
  /-- In a round there is one call, with its number, if the try passes signing, and none if not; and
  it is known what becomes of the call. -/
  reaches : ∀ t ∈ rounds, ∃ call?,
    t.calls o.retry.withDefaults (signedStage credential o.requestLog callee log) ctx q =
      call?.toList ∧
    Reaches credential o.retry.withDefaults ctx q t.number t.start call? ∧
    ∀ call ∈ call?, call.context.attempt = t.number ∧
      callee.Replies ctx call (callee.reply? ctx call)
  /-- Round by round, the entries are those about its call, that it goes out and what its reply is
  if there is one, and the one about its failure, if that may pass by itself. -/
  entries_eq : entries = rounds.flatMap fun t =>
    ((t.calls o.retry.withDefaults (signedStage credential o.requestLog callee log) ctx q).flatMap
        fun call => outgoingEntry t.number call.request ::
          (callee.reply? ctx call).toList.map fun reply =>
            closingEntry o.requestLog t.number call.request reply.1
              (Instant.since reply.2.now call.world.now)) ++
      (t.outcome.filter isRetryable).toList.map fun x =>
        failureEntry t.number o.retry.withDefaults.maxTries.toNat x (t.delay o.retry.withDefaults)
  /-- After the entry that there will be no more tries there is none. -/
  last : ∀ past t rest, rounds = past ++ t :: rest →
    ¬ t.number < o.retry.withDefaults.maxTries.toNat → rest = []

lemma entries_log (g : Logger) (text : String) (w : World) :
    (g.unfiltered.log .info text).seen Event.entries w = [(.info, text)] := by
  rw [RequestLog.log_unfiltered (by decide), seen_act]
  rfl

lemma seesEntries_entries : SeesEntries Event.entries where
  overlooks := overlooks_entries.mono fun a ha => by
    cases a with
    | record rs => exact absurd ha id
    | _ => trivial
  anywhere := fun _ _ _ => rfl

lemma flatMap_eventsOf_call (o : RequestLogOptions) (callee : Callee) (ctx : Context)
    (call : Call) :
    (RequestLog.eventsOf o callee ctx call).flatMap (·.call?.toList) = [call] := by
  rw [RequestLog.eventsOf]
  cases callee.reply? ctx call <;> rfl

lemma flatMap_eventsOf_entries (o : RequestLogOptions) (callee : Callee) (ctx : Context)
    (call : Call) :
    (RequestLog.eventsOf o callee ctx call).flatMap Event.entries =
      RequestLog.entriesOf o callee ctx call := by
  rw [RequestLog.eventsOf, RequestLog.entriesOf]
  cases callee.reply? ctx call <;> rfl

/-- The call of a round and the entries about it. -/
lemma exists_reaches_round {credential : Credential}
    (hcredential : ∀ r, (credential.sign r).All Act.IsSilent) {o : RetryOptions}
    (requestLog : RequestLogOptions) {callee : Callee}
    (hcallee : ∀ n c r, (callee.answer n c r).All Act.LeavesNoEntry) {g : Logger} {ctx : Context}
    {q : Request} {t : Round}
    (ht : t.IsOf o (signedStage credential requestLog callee g.unfiltered) ctx q) :
    ∃ call?, Reaches credential o ctx q t.number t.start call? ∧
      t.calls o (signedStage credential requestLog callee g.unfiltered) ctx q = call?.toList ∧
      t.seen Event.entries o (signedStage credential requestLog callee g.unfiltered) ctx q =
        call?.toList.flatMap (RequestLog.entriesOf requestLog callee ctx) := by
  have hsilent : ∀ n c r, (callee.answer n c r).All Act.IsSilent :=
    fun n c r => (hcallee n c r).and (callee.quiet n c r)
  obtain ⟨call?, hreach, hseen⟩ :=
    exists_reaches hcredential o requestLog hsilent g ht.live t.number q
  have hcalls : Overlooks (·.call?.toList) Act.IsSilent := overlooks_call.mono fun _ ha => ha.2
  have hentries : Overlooks Event.entries Act.IsSilent :=
    overlooks_entries.mono fun _ ha => ha.1
  refine ⟨call?, hreach, ?_, ?_⟩
  · rw [Round.calls, calls_eq_seen, hseen _ hcalls fun _ _ _ => rfl]
    simp only [flatMap_eventsOf_call, List.flatMap_singleton']
  · rw [Round.seen, hseen _ hentries fun _ _ _ => rfl]
    simp only [flatMap_eventsOf_entries]

/-- What is seen of the rounds of a history is what a log tells. -/
lemma History.logTells {credential : Credential}
    (hcredential : ∀ r, (credential.sign r).All Act.IsSilent) (o : PipelineOptions)
    {callee : Callee} (hcallee : ∀ n c r, (callee.answer n c r).All Act.LeavesNoEntry) (g : Logger)
    {ctx : Context} {q : Request} {rounds : List Round} {x : Option Outcome} {u v : World}
    (h : History o.retry.withDefaults g.unfiltered
      (signedStage credential o.requestLog callee g.unfiltered) ctx q
      o.retry.withDefaults.maxTries.toNat 1 u rounds x v) :
    LogTells credential o callee g.unfiltered ctx q rounds
      (rounds.flatMap (Round.seenWithNote (·.call?.toList) o.retry.withDefaults g.unfiltered
        (signedStage credential o.requestLog callee g.unfiltered) ctx q
        o.retry.withDefaults.maxTries.toNat))
      (rounds.flatMap (Round.seenWithNote Event.entries o.retry.withDefaults g.unfiltered
        (signedStage credential o.requestLog callee g.unfiltered) ctx q
        o.retry.withDefaults.maxTries.toNat)) where
  numbers := h.numbers
  length_le := by
    have := h.length_le (maxTries_withDefaults_pos o.retry)
    omega
  calls_eq := List.flatMap_congr fun t _ => seenWithNote_call t
  reaches := by
    intro t ht
    obtain ⟨call?, hreach, hcalls, -⟩ :=
      exists_reaches_round hcredential o.requestLog hcallee (h.isOf t ht)
    refine ⟨call?, hcalls, hreach, ?_⟩
    rintro call rfl
    exact ⟨hreach.attempt_eq, callee.replies_reply? hreach.not_isOverdue⟩
  entries_eq := by
    refine List.flatMap_congr fun t ht => ?_
    obtain ⟨call?, hreach, hcalls, hentries⟩ :=
      exists_reaches_round hcredential o.requestLog hcallee (h.isOf t ht)
    rw [Round.seenWithNote, hentries, hcalls, ← note_eq]
    refine congrArg₂ (· ++ ·) (List.flatMap_congr fun call hcall => ?_) ?_
    · obtain rfl := Option.mem_toList.mp hcall
      rw [← hreach.attempt_eq]
      exact entriesOf_eq (hreach.attempt_eq ▸ h.number_pos t ht) _ _ _
    · simp only [entries_log, List.map_eq_flatMap]
  last := by
    rintro past t rest rfl hlast
    exact h.eq_nil_of_last hlast

/-- **The log tells the run.**  In a default pipeline that logs everything, the run of a request
goes through rounds with the numbers from 1 on, and the entries are, round by round: one that the
request goes out, if the try passes signing; then one about the reply of the sender, if there is a
reply in time, at a level that says what has become of it; then one about the round, if its failure
may pass by itself, that there will be another try or that there will be none. -/
theorem pipeline_log_tells (credential : Credential)
    (hcredential : ∀ r, (credential.sign r).All Act.IsSilent) (o : PipelineOptions)
    (collector : Collector) (net : Network) (w₀ w₁ : World) (p : Pipeline)
    (hp : (Pipeline.new (some credential) { o with log := some (.custom fun _ => true) } collector
      net).run w₀ = (some (.ok p), w₁))
    (callee : Callee) (hcallee : ∀ n c r, (callee.answer n c r).All Act.LeavesNoEntry)
    (ctx : Context) (r : Request) (w : World) :
    ∃ q u rounds x v, IsPrepared (Utf8.encode (Telemetry.agentText o.telemetry)) r q ∧
      ((p.receiving callee).send ctx r).run w = (x, v) ∧
      History o.retry.withDefaults p.log (signedStage credential o.requestLog callee p.log) ctx q
        o.retry.withDefaults.maxTries.toNat 1 u rounds x v ∧
      LogTells credential o callee p.log ctx q rounds (((p.receiving callee).send ctx r).calls w)
        (((p.receiving callee).send ctx r).entries w) := by
  set g : Logger := ⟨.discard, collector⟩ with hg
  set next := Retry.stage o.retry.withDefaults
    (signedStage credential o.requestLog callee g.unfiltered) g.unfiltered with hnext
  have hlog : p.log = g.unfiltered := Pipeline.log_of_new hp
  have hsend : (p.receiving callee).send ctx r = Telemetry.stage
      (Utf8.encode (Telemetry.agentText o.telemetry)) (RequestId.stage next) ctx r := by
    obtain ⟨sender, own, rfl⟩ := Pipeline.eq_onto_of_new hp
    exact Pipeline.send_receiving _ credential o.retry o.requestLog g.unfiltered callee
  obtain ⟨q, u, hq, hrun, hseen⟩ :=
    exists_prepared (Utf8.encode (Telemetry.agentText o.telemetry)) next ctx r w
  obtain ⟨rounds, x, v, hend, hhist, hrounds⟩ := history_send o.retry
    (signedStage credential o.requestLog callee g.unfiltered) g.unfiltered ctx q u
  have htells := History.logTells hcredential o hcallee g hhist
  -- what is seen of the rounds is what is seen of the run
  rw [← hrounds _ seesEntries_call, ← hrounds _ seesEntries_entries] at htells
  refine ⟨q, u, rounds, x, v, hq, ?_, ?_, ?_⟩
  · rw [hsend, hrun]
    exact hend
  · rw [hlog]
    exact hhist
  · rw [hlog, hsend, calls_eq_seen, Activity.entries, hseen _ seesEntries_call.overlooks,
      hseen _ seesEntries_entries.overlooks]
    exact htells

/-- A sender that has no time. -/
def busy : Callee := ⟨fun _ _ r => .done (.ok (.new Retry.busyStatus r)), fun _ _ _ => trivial⟩

/-- A request to it in a pipeline that logs everything: two tries with two entries each, and one
about each of the tries. -/
theorem pipeline_log_tells_busy :
    ∃ v₁ : World, (Pipeline.new (some .anonymous)
        { bareOptions with log := some (.custom fun _ => true) } none fun _ _ => .never).run
          (.start []) = (some (.ok (openPipeline (.custom fun _ => true))), v₁) ∧
      (∀ r, (Credential.anonymous.sign r).All Act.IsSilent) ∧
      (∀ n c r, (busy.answer n c r).All Act.LeavesNoEntry) ∧
      ((((openPipeline (.custom fun _ => true)).receiving busy).send (.ofToken ⟨[0]⟩)
        (.new "GET" default)).entries (.start [])).map (·.1) =
          [.info, .error, .info, .info, .error, .info] ∧
      ∃ q rounds, LogTells .anonymous bareOptions busy
        (openPipeline (.custom fun _ => true)).log (.ofToken ⟨[0]⟩) q rounds
        ((((openPipeline (.custom fun _ => true)).receiving busy).send (.ofToken ⟨[0]⟩)
          (.new "GET" default)).calls (.start []))
        ((((openPipeline (.custom fun _ => true)).receiving busy).send (.ofToken ⟨[0]⟩)
          (.new "GET" default)).entries (.start [])) := by
  obtain ⟨v₁, hp⟩ := run_new_openPipeline (.custom fun _ => true) (.start [])
  have hanonymous : ∀ r, (Credential.anonymous.sign r).All Act.IsSilent := fun _ => trivial
  have hbusy : ∀ n c r, (busy.answer n c r).All Act.LeavesNoEntry := fun _ _ _ => trivial
  obtain ⟨q, u, rounds, x, v, -, -, -, htells⟩ := pipeline_log_tells .anonymous hanonymous
    bareOptions none (fun _ _ => .never) _ v₁ _ hp busy hbusy (.ofToken ⟨[0]⟩) (.new "GET" default)
    (.start [])
  exact ⟨v₁, hp, hanonymous, hbusy, by decide +kernel, q, rounds, htells⟩

end QueueClient
