/-
# Logging is a filter

Every stage of a default pipeline asks its logger before it leaves an entry, so that a pipeline
with any logger is the pipeline that logs everything, with its entries handed to that logger
(`Activity.loggedBy`).  This is shown stage by stage, from the log's own `log` upwards; the
credential leaves no entries, and the sender asks like the others (`Receiver`).

What follows is about runs: logging does not change what a request comes to, nor what the sender
receives and when, and the entries under a test of levels are those that pass it.
-/
import QueueClient.Proofs.Activity.Entries
import QueueClient.Proofs.Pipeline.Wire
import QueueClient.Proofs.Retry.Rounds

namespace QueueClient

open Activity

/-! ## Loggers -/

namespace Logger

variable {g : Logger} {l : Level}

/-- The logger with a sink that wants everything. -/
def unfiltered (g : Logger) : Logger := { g with sink := .custom fun _ => true }

/-- Of an entry that is wanted something is left. -/
lemma write_ne_nil (h : g.accepts l = true) (text : String) : g.write l text ≠ [] := by
  rw [accepts, Bool.and_eq_true, bne_iff_ne] at h
  obtain ⟨hoff, hsink⟩ := h
  rw [write, if_neg hoff]
  cases hs : g.sink with
  | discard =>
    rw [hs] at hsink
    cases hsink
  | custom p => exact List.cons_ne_nil _ _
  | trace =>
    simp only [hs, Sink.accepts] at hsink
    simp only [Sink.write]
    cases ht : l.traceLevel? with
    | none => simp [ht] at hsink
    | some t =>
      simp only [ht] at hsink
      have hrecord : g.collector.record (Sink.event t l text) = [.traced (Sink.event t l text)] :=
        if_pos hsink
      show g.collector.record (Sink.event t l text) ≠ []
      rw [hrecord]
      exact List.cons_ne_nil _ _

/-- An entry in the log of everything, handed to the logger, is an entry in its log. -/
lemma loggedBy_log (g : Logger) (l : Level) (text : String) :
    (g.unfiltered.log l text).loggedBy g = g.log l text := by
  by_cases hoff : l = .off
  · subst hoff
    rfl
  · have hwrite : g.unfiltered.write l text = [.entry l text] := if_neg hoff
    have hkeep : [LogRecord.entry l text].flatMap g.keep =
        if g.accepts l then g.write l text else [] := List.append_nil _
    have hunfiltered : g.unfiltered.accepts l = true := by
      simp [accepts, unfiltered, Sink.accepts, hoff]
    rw [log, if_pos hunfiltered, hwrite, Activity.perform, loggedBy, handing, hkeep, log]
    by_cases haccepts : g.accepts l = true
    · rw [if_pos haccepts, if_pos haccepts, if_neg fun h => write_ne_nil haccepts text h.2]
      rfl
    · rw [if_neg haccepts, if_neg haccepts, if_pos ⟨List.cons_ne_nil _ _, rfl⟩]
      rfl

end Logger

/-! ## Stages -/

variable {g : Logger} {next : Stage} {ctx c : Context} {r : Request}

/-- The stage with its entries handed to a logger. -/
def Stage.loggedBy (g : Logger) (s : Stage) : Stage := fun ctx r => (s ctx r).loggedBy g

lemma Telemetry.loggedBy_stage (g : Logger) (agent : HeaderValue) (next : Stage) :
    Stage.loggedBy g (Telemetry.stage agent next) =
      Telemetry.stage agent (Stage.loggedBy g next) := rfl

lemma RequestId.loggedBy_stage (g : Logger) (next : Stage) :
    Stage.loggedBy g (RequestId.stage next) = RequestId.stage (Stage.loggedBy g next) := by
  funext ctx r
  rw [Stage.loggedBy, RequestId.stage, RequestId.stage]
  split <;> rfl

lemma Credential.all_passes {P : Act → Prop} {credential : Credential}
    (h : ∀ r, (credential.sign r).All P) (r : Request) : (credential.passes r).All P := by
  rw [passes]
  split
  · trivial
  · exact h r

lemma Credential.loggedBy_inFront {credential : Credential}
    (h : ∀ r, (credential.sign r).All Act.LeavesNoEntry) (g : Logger) (next : Stage) :
    Stage.loggedBy g (credential.inFront next) =
      credential.inFront (Stage.loggedBy g next) := by
  funext ctx r
  rw [Stage.loggedBy, inFront, loggedBy_bind, loggedBy_of_all (all_passes h r), inFront]
  refine congrArg (Activity.bind _) (funext fun signed => ?_)
  cases signed <;> rfl

lemma RequestLog.loggedBy_stage (g : Logger) (o : RequestLogOptions) (next : Stage) :
    Stage.loggedBy g (RequestLog.stage o next g.unfiltered) =
      RequestLog.stage o (Stage.loggedBy g next) g := by
  funext ctx r
  simp only [Stage.loggedBy, stage, loggedBy_bind, g.loggedBy_log]
  refine congrArg (Activity.bind _) (funext fun _ => ?_)
  simp only [loggedBy, handing, loggedBy_bind]
  refine congrArg (act _) (funext fun _ => congrArg (Activity.bind _) (funext fun outcome => ?_))
  simp only [g.loggedBy_log]

namespace Retry

lemma loggedBy_attempt (g : Logger) (o : RetryOptions) (next : Stage) (ctx : Context) (n : ℕ)
    (r : Request) :
    (attempt o next ctx n r).loggedBy g = attempt o (Stage.loggedBy g next) ctx n r := by
  simp only [attempt_eq, loggedBy, handing]
  refine congrArg (act _) (funext fun copy => ?_)
  cases copy with
  | error e => rfl
  | ok q =>
    show ((renew n q).bind (proceed o next ctx n)).loggedBy g =
      (renew n q).bind (proceed o (Stage.loggedBy g next) ctx n)
    rw [loggedBy_bind, loggedBy_of_all (all_renew trivial n q)]
    refine congrArg (Activity.bind _) (funext fun q => ?_)
    simp only [proceed, tryFrom, tryUntil, loggedBy, handing, loggedBy_bind,
      loggedBy_of_all (All.expect _), loggedBy_untilDone, loggedBy_timeoutAt,
      loggedBy_of_all (all_conclude (P := Act.LeavesNoEntry) trivial n _)]
    rfl

lemma loggedBy_pause (g : Logger) (o : RetryOptions) (ctx : Context) (n maxTries : ℕ)
    (cause : String) :
    (pause o g.unfiltered ctx n maxTries cause).loggedBy g = pause o g ctx n maxTries cause := by
  have hwait : ∀ delay, (waitFor ctx delay).All Act.LeavesNoEntry :=
    all_waitFor trivial (fun _ => trivial) trivial
  simp only [pause, loggedBy, handing, loggedBy_bind, g.loggedBy_log, loggedBy_of_all (hwait _)]

lemma loggedBy_resume (g : Logger) (rest : Activity Outcome) (x : Except CancelReason Unit) :
    (resume rest x).loggedBy g = resume (rest.loggedBy g) x := by
  cases x <;> rfl

lemma loggedBy_tries (g : Logger) (o : RetryOptions) (next : Stage) (ctx : Context) (r : Request)
    (left n : ℕ) :
    (tries o g.unfiltered next ctx r left n).loggedBy g =
      tries o g (Stage.loggedBy g next) ctx r left n := by
  induction left generalizing n with
  | zero =>
    rw [tries_zero, tries_zero]
    simp only [loggedBy, handing]
    refine congrArg (act _) (funext fun reason => ?_)
    cases reason with
    | some reason => rfl
    | none =>
      simp only [loggedBy_bind, loggedBy_attempt]
      refine congrArg (Activity.bind _) (funext fun outcome => ?_)
      cases cause? outcome with
      | none => rfl
      | some cause => simp only [loggedBy_bind, g.loggedBy_log, loggedBy]
  | succ left ih =>
    rw [tries_succ, tries_succ]
    simp only [loggedBy, handing]
    refine congrArg (act _) (funext fun reason => ?_)
    cases reason with
    | some reason => rfl
    | none =>
      simp only [loggedBy_bind, loggedBy_attempt]
      refine congrArg (Activity.bind _) (funext fun outcome => ?_)
      cases cause? outcome with
      | none => rfl
      | some cause => simp only [loggedBy_bind, loggedBy_pause, loggedBy_resume, ih]

lemma loggedBy_stage (g : Logger) (o : RetryOptions) (next : Stage) :
    Stage.loggedBy g (Retry.stage o next g.unfiltered) =
      Retry.stage o (Stage.loggedBy g next) g := by
  funext ctx r
  exact loggedBy_tries g o next ctx r _ 1

end Retry

/-! ## Pipelines -/

/-- What stands in the place of a sender, for every logger that it may be given.  If it leaves
entries, it asks its logger first. -/
structure Receiver where
  /-- The stage with a logger. -/
  callee : Logger → Callee
  /-- Its entries are those that it would leave if everything were logged, as the logger has
  them. -/
  asks : ∀ g n c r, (callee g).answer n c r = ((callee g.unfiltered).answer n c r).loggedBy g

namespace Receiver

lemma loggedBy_stage (receiver : Receiver) (g : Logger) :
    Stage.loggedBy g (receiver.callee g.unfiltered).stage = (receiver.callee g).stage := by
  funext c r
  simp only [Stage.loggedBy, Callee.stage, loggedBy, handing]
  exact congrArg (act _) (funext fun n => (receiver.asks g n c r).symm)

end Receiver

/-- Sending a request in a pipeline with another sender at its end. -/
def Pipeline.sendTo (p : Pipeline) (receiver : Receiver) (ctx : Context) (r : Request) :
    Activity Outcome :=
  (p.receiving (receiver.callee p.log)).send ctx r

lemma loggedBy_chain (g : Logger) (agent : HeaderValue) (retry : RetryOptions)
    (requestLog : RequestLogOptions) {credential : Credential}
    (hcredential : ∀ r, (credential.sign r).All Act.LeavesNoEntry) (receiver : Receiver) :
    Stage.loggedBy g (Telemetry.stage agent (RequestId.stage (Retry.stage retry
      (credential.inFront (RequestLog.stage requestLog (receiver.callee g.unfiltered).stage
        g.unfiltered)) g.unfiltered))) =
      Telemetry.stage agent (RequestId.stage (Retry.stage retry
        (credential.inFront (RequestLog.stage requestLog (receiver.callee g).stage g)) g)) := by
  rw [Telemetry.loggedBy_stage, RequestId.loggedBy_stage, Retry.loggedBy_stage,
    Credential.loggedBy_inFront hcredential, RequestLog.loggedBy_stage, receiver.loggedBy_stage]

/-- **A default pipeline is the one that logs everything, its entries handed to its logger.** -/
theorem Pipeline.sendTo_eq_loggedBy {credential : Credential} {o : PipelineOptions}
    {collector : Collector} {net : Network} {w₁ v₁ w₂ v₂ : World} {p full : Pipeline}
    (hcredential : ∀ r, (credential.sign r).All Act.LeavesNoEntry) {log : Option Sink}
    (hp : (Pipeline.new (some credential) { o with log } collector net).run w₁ =
      (some (.ok p), v₁))
    (hfull : (Pipeline.new (some credential) { o with log := some (.custom fun _ => true) } collector
      net).run w₂ = (some (.ok full), v₂))
    (receiver : Receiver) (ctx : Context) (r : Request) :
    p.sendTo receiver ctx r = (full.sendTo receiver ctx r).loggedBy p.log := by
  obtain ⟨sender₁, own₁, rfl⟩ := Pipeline.eq_onto_of_new hp
  obtain ⟨sender₂, own₂, rfl⟩ := Pipeline.eq_onto_of_new hfull
  have hchain := congrFun (congrFun (loggedBy_chain ⟨PipelineOptions.sink { o with log }, collector⟩
    (Utf8.encode (Telemetry.agentText o.telemetry)) o.retry.withDefaults o.requestLog hcredential
    receiver) ctx) r
  rw [sendTo, sendTo, send_receiving, send_receiving]
  exact hchain.symm

/-- Two ways to do something that differ, in a world, in what they write to the log only: they come
to the same, and the same calls are made, with the same requests in the same worlds, among the same
other acts and waits. -/
structure SameButLog (p q : Activity Outcome) (w : World) : Prop where
  result : (p.run w).1 = (q.run w).1
  finish : { (p.run w).2 with records := [] } = { (q.run w).2 with records := [] }
  calls : (p.calls w).map Call.unlogged = (q.calls w).map Call.unlogged
  events : (p.trace w).filterMap Event.unlogged? = (q.trace w).filterMap Event.unlogged?

lemma sameButLog_loggedBy (g h : Logger) (p : Activity Outcome) (w : World) :
    SameButLog (p.loggedBy g) (p.loggedBy h) w := by
  have hg := run_loggedBy g p w w.records
  have hh := run_loggedBy h p w w.records
  have htrace : ((p.loggedBy g).trace w).filterMap Event.unlogged? =
      ((p.loggedBy h).trace w).filterMap Event.unlogged? :=
    (trace_loggedBy g p w w.records).trans (trace_loggedBy h p w w.records).symm
  refine ⟨?_, ?_, ?_, htrace⟩
  · exact (congrArg Prod.fst hg).trans (congrArg Prod.fst hh).symm
  · have hg' := congrArg (fun x => ({ x.2 with records := [] } : World)) hg
    have hh' := congrArg (fun x => ({ x.2 with records := [] } : World)) hh
    exact hg'.trans hh'.symm
  · rw [calls_unlogged, calls_unlogged, htrace]

/-- A sink with a test of levels keeps the entries that pass it. -/
lemma filterMap_keep_custom (accepts : Level → Bool) (collector : Collector) (record : LogRecord) :
    ((⟨.custom accepts, collector⟩ : Logger).keep record).filterMap LogRecord.entry? =
      record.entry?.toList.filter fun e => e.1 != .off && accepts e.1 := by
  cases record with
  | traced e => rfl
  | entry l text =>
    have haccepts : (⟨.custom accepts, collector⟩ : Logger).accepts l =
        (l != .off && accepts l) := rfl
    cases h : (l != .off && accepts l) with
    | true =>
      have hoff : l ≠ .off := bne_iff_ne.mp (Bool.and_eq_true_iff.mp h).1
      have hwrite : (⟨.custom accepts, collector⟩ : Logger).write l text = [.entry l text] :=
        if_neg hoff
      rw [Logger.keep, if_pos (haccepts.trans h), hwrite]
      simp [LogRecord.entry?, h]
    | false =>
      rw [Logger.keep, if_neg (by simp [haccepts, h])]
      simp [LogRecord.entry?, h]

lemma entries_loggedBy_custom (accepts : Level → Bool) (collector : Collector)
    (p : Activity Outcome) (w : World) :
    (p.loggedBy ⟨.custom accepts, collector⟩).entries w =
      (p.entries w).filter fun e => e.1 != .off && accepts e.1 := by
  rw [entries_eq, entries_eq, written_loggedBy, List.filterMap_flatMap,
    List.filterMap_eq_flatMap_toList, List.filter_flatMap]
  exact List.flatMap_congr fun record _ => filterMap_keep_custom accepts collector record

/-- Nowhere there are no entries. -/
lemma entries_loggedBy_discard (collector : Collector) (p : Activity Outcome) (w : World) :
    (p.loggedBy ⟨.discard, collector⟩).entries w = [] := by
  rw [entries_eq, written_loggedBy, List.filterMap_flatMap, List.flatMap_eq_nil_iff]
  intro record _
  have haccepts : ∀ l, (⟨.discard, collector⟩ : Logger).accepts l = false :=
    fun l => Bool.and_false _
  cases record with
  | traced e => rfl
  | entry l text => simp [Logger.keep, haccepts]

lemma Pipeline.log_of_new {credential : Credential} {o : PipelineOptions} {collector : Collector}
    {net : Network} {w v : World} {p : Pipeline}
    (hp : (Pipeline.new (some credential) o collector net).run w = (some (.ok p), v)) :
    p.log = ⟨o.sink, collector⟩ := by
  obtain ⟨sender, own, rfl⟩ := Pipeline.eq_onto_of_new hp
  rfl

/-- **Logging never influences a run, and filtering is exactly a filter.**  A request in a default
pipeline comes to the same, with the same calls of the sender at the same times, as in that pipeline
without logging; its entries are those of the pipeline that logs everything whose level is not `off`
and passes the test, and no entry is left that does not. -/
theorem pipeline_log_filter (credential : Credential)
    (hcredential : ∀ r, (credential.sign r).All Act.LeavesNoEntry) (o : PipelineOptions)
    (accepts : Level → Bool) (collector : Collector) (net : Network)
    (w₁ w₂ w₃ v₁ v₂ v₃ : World) (p full mute : Pipeline)
    (hp : (Pipeline.new (some credential) { o with log := some (.custom accepts) } collector
      net).run w₁ = (some (.ok p), v₁))
    (hfull : (Pipeline.new (some credential) { o with log := some (.custom fun _ => true) } collector
      net).run w₂ = (some (.ok full), v₂))
    (hmute : (Pipeline.new (some credential) { o with log := some .discard } collector
      net).run w₃ = (some (.ok mute), v₃))
    (receiver : Receiver) (ctx : Context) (r : Request) (w : World) :
    SameButLog (p.sendTo receiver ctx r) (mute.sendTo receiver ctx r) w ∧
      (mute.sendTo receiver ctx r).entries w = [] ∧
      (p.sendTo receiver ctx r).entries w =
        ((full.sendTo receiver ctx r).entries w).filter (fun e => e.1 != .off && accepts e.1) ∧
      ∀ e ∈ (p.sendTo receiver ctx r).entries w, e.1 ≠ .off ∧ accepts e.1 = true := by
  have hplog : p.log = ⟨.custom accepts, collector⟩ := Pipeline.log_of_new hp
  have hmutelog : mute.log = ⟨.discard, collector⟩ := Pipeline.log_of_new hmute
  have hpsend := Pipeline.sendTo_eq_loggedBy hcredential hp hfull receiver ctx r
  have hmutesend := Pipeline.sendTo_eq_loggedBy hcredential hmute hfull receiver ctx r
  rw [hplog] at hpsend
  rw [hmutelog] at hmutesend
  have hentries : (p.sendTo receiver ctx r).entries w =
      ((full.sendTo receiver ctx r).entries w).filter fun e => e.1 != .off && accepts e.1 := by
    rw [hpsend, entries_loggedBy_custom]
  refine ⟨?_, ?_, hentries, fun e he => ?_⟩
  · rw [hpsend, hmutesend]
    exact sameButLog_loggedBy _ _ _ w
  · rw [hmutesend, entries_loggedBy_discard]
  · rw [hentries, List.mem_filter, Bool.and_eq_true, bne_iff_ne] at he
    exact he.2

/-- A sender that takes every request and leaves an entry about it. -/
def chatty : Receiver where
  callee g :=
    { answer := fun _ _ r => (g.log .debug "received").bind fun _ => .done (.ok (.new .ok r))
      quiet := fun _ _ _ => All.bind (Quiet.log g .debug _) fun _ => trivial }
  asks g _ _ _ := by
    simp only [loggedBy_bind, g.loggedBy_log]
    rfl

/-- A pipeline of a caller without an account, with a sink. -/
def openPipeline (sink : Sink) : Pipeline :=
  (defaultBuilder (Utf8.encode Telemetry.platform) .anonymous bareOptions.retry
    bareOptions.requestLog).onto Policy.slotMarker none ⟨sink, none⟩

lemma run_new_openPipeline (sink : Sink) (w : World) :
    ∃ v, (Pipeline.new (some .anonymous) { bareOptions with log := some sink } none
      fun _ _ => .never).run w = (some (.ok (openPipeline sink)), v) := by
  have hagent : Headers.value? (Telemetry.agentText bareOptions.telemetry) =
      some (Utf8.encode Telemetry.platform) := by decide +kernel
  exact @Pipeline.run_new_of_sender { bareOptions with log := some sink } .anonymous
    Policy.slotMarker (Utf8.encode Telemetry.platform) hagent rfl none (fun _ _ => .never) w

/-- A request in such a pipeline with a sink that has no use for entries about debugging: of the
three that there would be it is spared the one of the sender. -/
theorem pipeline_log_filter_openPipeline :
    ∃ v₁ v₂ v₃ : World,
      (Pipeline.new (some .anonymous) { bareOptions with log := some (.custom (· != .debug)) } none
        fun _ _ => .never).run (.start []) =
          (some (.ok (openPipeline (.custom (· != .debug)))), v₁) ∧
      (Pipeline.new (some .anonymous) { bareOptions with log := some (.custom fun _ => true) } none
        fun _ _ => .never).run (.start []) =
          (some (.ok (openPipeline (.custom fun _ => true))), v₂) ∧
      (Pipeline.new (some .anonymous) { bareOptions with log := some .discard } none
        fun _ _ => .never).run (.start []) = (some (.ok (openPipeline .discard)), v₃) ∧
      (∀ r, (Credential.anonymous.sign r).All Act.LeavesNoEntry) ∧
      SameButLog ((openPipeline (.custom (· != .debug))).sendTo chatty (.ofToken ⟨[0]⟩)
        (.new "GET" default)) ((openPipeline .discard).sendTo chatty (.ofToken ⟨[0]⟩)
        (.new "GET" default)) (.start []) ∧
      ((openPipeline (.custom (· != .debug))).sendTo chatty (.ofToken ⟨[0]⟩)
        (.new "GET" default)).entries (.start []) =
          (((openPipeline (.custom fun _ => true)).sendTo chatty (.ofToken ⟨[0]⟩)
            (.new "GET" default)).entries (.start [])).filter
              (fun e => e.1 != .off && e.1 != .debug) ∧
      (((openPipeline (.custom fun _ => true)).sendTo chatty (.ofToken ⟨[0]⟩)
        (.new "GET" default)).entries (.start [])).map (·.1) = [.info, .debug, .info] := by
  obtain ⟨v₁, hp⟩ := run_new_openPipeline (.custom (· != .debug)) (.start [])
  obtain ⟨v₂, hfull⟩ := run_new_openPipeline (.custom fun _ => true) (.start [])
  obtain ⟨v₃, hmute⟩ := run_new_openPipeline .discard (.start [])
  have hanonymous : ∀ r, (Credential.anonymous.sign r).All Act.LeavesNoEntry := fun _ => trivial
  obtain ⟨hsame, -, hentries, -⟩ := pipeline_log_filter .anonymous hanonymous bareOptions
    (· != .debug) none (fun _ _ => .never) _ _ _ v₁ v₂ v₃ _ _ _ hp hfull hmute chatty
    (.ofToken ⟨[0]⟩) (.new "GET" default) (.start [])
  exact ⟨v₁, v₂, v₃, hp, hfull, hmute, hanonymous, hsame, hentries, by decide +kernel⟩

end QueueClient
