/-
# Senders that are shut down

A sender that is shut down refuses at once, before it looks at anything else.  In front of it a
default pipeline makes one try of it: every stage passes the refusal on, and the loop over tries
takes it for final (`Pipeline.refusedOnce_send`).  No stage waits, so all of this is done by acts
alone (`Stage.Refuses`), and what the acts are is known but for those of the credential, of which is
asked that it can sign (`Credential.CanSign`).

The time for a try is added to the time of day before anybody is asked.  Where the clock cannot name
the sum, the request breaks off and nobody refuses it (`Pipeline.aborts_send`).
-/
import QueueClient.Proofs.Activity.Straight
import QueueClient.Proofs.Credential.Resigning
import QueueClient.Proofs.Pipeline.Wire

namespace QueueClient

open Activity

/-- The act cancels nothing, takes no payload, starts no try and leaves senders alone. -/
def Act.IsAside : Act → Prop
  | .cancel _ | .cancelCaller | .rewind _ _ | .payload _ _ | .openFamily | .shutDown _ => False
  | _ => True

/-- The number of the try that an act starts. -/
def Act.try? : Act → List ℕ
  | .rewind _ n => [n]
  | _ => []

/-- The number of the try that an event starts. -/
def Event.try? : Event → List ℕ
  | .acts d _ => d.try?
  | .waits _ => []

namespace Act.IsAside

variable {d : Act} {as : List Act} {w : World}

lemma try?_eq_nil (h : d.IsAside) : d.try? = [] := by
  cases d <;> first | exact h.elim | rfl

lemma flatMap_try?_eq_nil (h : ∀ d ∈ as, d.IsAside) : as.flatMap Act.try? = [] :=
  List.flatMap_eq_nil_iff.2 fun d hd => (h d hd).try?_eq_nil

lemma families_perform (h : d.IsAside) (w : World) : (w.perform d).2.families = w.families := by
  cases d <;> first | exact h.elim | rfl

lemma streams_perform (h : d.IsAside) (w : World) : (w.perform d).2.streams = w.streams := by
  cases d <;> first | exact h.elim | rfl

lemma reasonIn_perform (h : d.IsAside) (c : Context) (w : World) :
    c.reasonIn (w.perform d).2 = c.reasonIn w := by
  cases d <;> first | exact h.elim | rfl

end Act.IsAside

namespace Activity

variable {α β : Type} {p : Activity α} {f : α → Activity β} {a : α} {b : β} {d : Act}
  {u v w : World}

/-- The activity comes to a result by acts on the side, without a wait. -/
def Aside (p : Activity α) (w : World) (a : α) (v : World) : Prop :=
  ∃ as, p.Straight w as a v ∧ ∀ d ∈ as, d.IsAside

namespace Aside

lemma done (a : α) (w : World) : (done a).Aside w a w := ⟨[], .done a w, by simp⟩

lemma act {k : d.Answer → Activity α} {x : d.Answer} (hd : d.IsAside)
    (hx : w.perform d = (x, u)) (h : (k x).Aside u a v) : (Activity.act d k).Aside w a v := by
  obtain ⟨as, hstraight, haside⟩ := h
  exact ⟨d :: as, .of_perform hx hstraight, by simpa using ⟨hd, haside⟩⟩

lemma bind (h : p.Aside w a u) (h' : (f a).Aside u b v) : (p.bind f).Aside w b v := by
  obtain ⟨as, hstraight, haside⟩ := h
  obtain ⟨bs, hstraight', haside'⟩ := h'
  exact ⟨as ++ bs, hstraight.bind hstraight',
    fun d hd => (List.mem_append.1 hd).elim (haside d) (haside' d)⟩

lemma within (h : p.Aside w a v) (t : ℕ) {c : Context} (hc : c.reasonIn w = none) :
    ((p.timeoutAt t).untilDone c).Aside w (.ok (some a)) v := by
  obtain ⟨as, hstraight, haside⟩ := h
  exact ⟨_, (hstraight.timeoutAt t).untilDone hc, by simpa using ⟨trivial, haside⟩⟩

lemma now_eq (h : p.Aside w a v) : v.now = w.now := h.choose_spec.1.now_eq

lemma families_eq (h : p.Aside w a v) : v.families = w.families :=
  h.choose_spec.1.kept fun d hd => (h.choose_spec.2 d hd).families_perform

lemma reasonIn_eq (h : p.Aside w a v) (c : Context) : c.reasonIn v = c.reasonIn w :=
  h.choose_spec.1.kept fun d hd => (h.choose_spec.2 d hd).reasonIn_perform c

end Aside

end Activity

/-- A log entry is written by an act on the side, if at all. -/
lemma Logger.exists_aside_log (g : Logger) (l : Level) (text : String) (w : World) :
    ∃ v, (g.log l text).Aside w () v := by
  rw [Logger.log]
  split
  · exact ⟨_, .act trivial rfl (.done _ _)⟩
  · exact ⟨w, .done _ _⟩

/-! ## Below the loop -/

/-- The stage passes on the refusal of a sender that is shut down. -/
def Stage.Refuses (next : Stage) (family : ℕ) : Prop :=
  ∀ (ctx : Context) (r : Request) (w : World), w.families.isShut family = true →
    ∃ v, (next ctx r).Aside w (.error HttpSender.refusal) v

/-- The credential can sign whatever it is given, without touching anything else. -/
def Credential.CanSign (c : Credential) : Prop :=
  ∀ (r : Request) (w : World), ∃ q v, (c.passes r).Aside w (.ok q) v

namespace HttpSender

variable {net : Network} {s : HttpSender} {ctx : Context} {r : Request} {w : World}

/-- All that a sender does that is shut down. -/
lemma straight_send (h : w.families.isShut s.family = true) :
    (s.send net ctx r).Straight w [.isShut s.family] (.error refusal) w :=
  .of_perform (Prod.ext h rfl) (.done _ _)

/-- A sender that is not shut down gives way to a context that is done. -/
lemma straight_send_of_done {reason : CancelReason} (h : w.families.isShut s.family = false)
    (hdone : ctx.reasonIn w = some reason) :
    (s.send net ctx r).Straight w [.isShut s.family, .firstDue ctx.endings]
      (.error (.cancelled reason)) w := by
  have hended : w.perform (.firstDue ctx.endings) = (some reason, w) := by
    rw [World.perform_endings, hdone]
  exact .of_perform (Prod.ext h rfl) (.of_perform hended (.done _ _))

lemma refuses_send (net : Network) (s : HttpSender) : Stage.Refuses (s.send net) s.family :=
  fun _ _ w h => ⟨w, _, straight_send h, by simp [Act.IsAside]⟩

end HttpSender

variable {next : Stage} {family : ℕ}

lemma RequestLog.refuses_stage (o : RequestLogOptions) (h : Stage.Refuses next family)
    (log : Logger) : Stage.Refuses (RequestLog.stage o next log) family := by
  intro ctx r w hshut
  obtain ⟨u, hopening⟩ := log.exists_aside_log .info (outgoingText (Subject.of ctx r)) w
  obtain ⟨u', hnext⟩ := h ctx r u (by rw [hopening.families_eq, hshut])
  obtain ⟨v, hclosing⟩ := log.exists_aside_log
    (outcomeLevel (o.slowThreshold.filter (! ·.isZero)) (.error HttpSender.refusal)
      (Instant.since u'.now u.now))
    (closingText (Subject.of ctx r) (o.slowThreshold.filter (! ·.isZero))
      (.error HttpSender.refusal) (Instant.since u'.now u.now)) u'
  exact ⟨v, hopening.bind (.act trivial u.perform_clock
    (hnext.bind (.act trivial u'.perform_clock (hclosing.bind (.done _ _)))))⟩

lemma Credential.refuses_inFront {c : Credential} (hc : c.CanSign)
    (h : Stage.Refuses next family) : Stage.Refuses (c.inFront next) family := by
  intro ctx r w hshut
  obtain ⟨q, u, hsign⟩ := hc r w
  obtain ⟨v, hnext⟩ := h ctx q u (by rw [hsign.families_eq, hshut])
  exact ⟨v, hsign.bind hnext⟩

lemma Credential.canSign_anonymous : Credential.anonymous.CanSign :=
  fun r w => ⟨r, w, .done _ _⟩

/-- A shared key can sign if its account has a name that a header can hold. -/
lemma Credential.canSign_sharedKey {account : String} (h : Signature.isValueText account = true)
    (epoch : ℤ) : (Credential.sharedKey account epoch).CanSign := by
  intro r w
  have hsign : (Activity.done
      (Signature.signAt account w.accountKey (epoch + (w.now / 1_000_000_000 : ℕ)) r)).Aside w
      (.ok (Signature.signed account w.accountKey (epoch + (w.now / 1_000_000_000 : ℕ)) r)) w := by
    rw [Signature.signAt_eq_ok h]
    exact .done _ _
  exact ⟨_, w, .act trivial w.perform_clock (.act trivial rfl hsign)⟩

/-! ## The loop -/

namespace Retry

variable {o : RetryOptions} {ctx : Context} {r : Request} {w : World}

/-- A later try makes up an id, and that is all. -/
lemma exists_aside_renew (n : ℕ) (r : Request) (w : World) :
    ∃ q v, (renew n r).Aside w q v := by
  rw [renew]
  split
  · exact ⟨_, _, .act trivial rfl (.done _ _)⟩
  · exact ⟨r, w, .done _ _⟩

/-- A try gets a copy of the request and is refused, if the clock can name the end of its time. -/
lemma exists_straight_attempt (h : Stage.Refuses next family) (n : ℕ)
    (hlive : ctx.reasonIn w = none) (hreplay : r.body.canReplay w.streams = true)
    (hshut : w.families.isShut family = true)
    (hnamed : w.now + o.tryTimeout.nanos ≤ Instant.last) :
    ∃ as v, (attempt o next ctx n r).Straight w (.rewind r n :: as)
      (.error HttpSender.refusal) v ∧ ∀ d ∈ as, d.IsAside := by
  have hrewind : w.perform (.rewind r n) = (.ok r, w) := Prod.ext (if_pos hreplay) rfl
  obtain ⟨q, u, hrenew⟩ := exists_aside_renew n r w
  have hbranch : (Act.branch ctx.token).IsAside := trivial
  have hlive' : ctx.reasonIn (u.perform (.branch ctx.token)).2 = none := by
    rw [hbranch.reasonIn_perform, hrenew.reasonIn_eq, hlive]
  have hshut' : (u.perform (.branch ctx.token)).2.families.isShut family = true := by
    rw [hbranch.families_perform, hrenew.families_eq, hshut]
  obtain ⟨v, hnext⟩ := h
    (ctx.deriveFor (u.perform (.branch ctx.token)).1 n (tryEnd o ctx u.now))
    { q with url := q.url.setServerTimeout (Instant.since (tryEnd o ctx u.now) u.now) } _ hshut'
  have hsettle : (conclude o ctx n (.ok (some (.error HttpSender.refusal)))).Aside v
      (.error HttpSender.refusal) v :=
    .act trivial (Prod.ext ((hnext.reasonIn_eq ctx).trans hlive') rfl) (.done _ _)
  have hcall : (tryFrom o next ctx n q u.now).Aside u (.error HttpSender.refusal) v := by
    rw [tryFrom_of_le (hrenew.now_eq ▸ hnamed)]
    exact .act trivial rfl ((hnext.within _ hlive').bind hsettle)
  obtain ⟨as, hstraight, haside⟩ : ((renew n r).bind (proceed o next ctx n)).Aside w
      (.error HttpSender.refusal) v := hrenew.bind (.act trivial u.perform_clock hcall)
  rw [attempt_eq]
  exact ⟨as, v, .of_perform hrewind hstraight, haside⟩

/-- **A refusal ends the loop**: there is one try, however many are allowed. -/
theorem exists_straight_stage (h : Stage.Refuses next family) (log : Logger)
    (hlive : ctx.reasonIn w = none) (hreplay : r.body.canReplay w.streams = true)
    (hshut : w.families.isShut family = true)
    (hnamed : w.now + o.tryTimeout.nanos ≤ Instant.last) :
    ∃ as v, (stage o next log ctx r).Straight w (.reason ctx :: .rewind r 1 :: as)
      (.error HttpSender.refusal) v ∧ ∀ d ∈ as, d.IsAside := by
  obtain ⟨as, v, hattempt, haside⟩ :=
    exists_straight_attempt (o := o) (n := 1) h hlive hreplay hshut hnamed
  have hfinal : cause? (.error HttpSender.refusal) = none := by decide
  have hround : ∀ f : Outcome → Activity Outcome,
      f (.error HttpSender.refusal) = .done (.error HttpSender.refusal) →
      ((attempt o next ctx 1 r).bind f).Straight w (.rewind r 1 :: as)
        (.error HttpSender.refusal) v := fun f hf => by
    have hdone : (f (.error HttpSender.refusal)).Straight v [] (.error HttpSender.refusal) v := by
      rw [hf]
      exact .done _ _
    simpa using hattempt.bind hdone
  refine ⟨as, v, ?_, haside⟩
  have hlook : w.perform (.reason ctx) = (none, w) := Prod.ext hlive rfl
  rw [stage]
  cases max o.maxTries.toNat 1 - 1 with
  | zero =>
    rw [tries_zero]
    exact .of_perform hlook (hround _ (by rw [hfinal]))
  | succ left =>
    rw [tries_succ]
    exact .of_perform hlook (hround _ (by rw [hfinal]))

/-- A try breaks off if the clock cannot name the end of its time. -/
lemma aborts_attempt (next : Stage) (ctx : Context) (n : ℕ)
    (hreplay : r.body.canReplay w.streams = true)
    (hlast : Instant.last < w.now + o.tryTimeout.nanos) :
    (attempt o next ctx n r).aborts w = true := by
  have hrewind : w.perform (.rewind r n) = (.ok r, w) := Prod.ext (if_pos hreplay) rfl
  obtain ⟨q, u, as, hrenew, haside⟩ := exists_aside_renew n r w
  rw [attempt_eq, aborts_act, hrewind]
  show ((renew n r).bind (proceed o next ctx n)).aborts w = true
  rw [aborts_bind_of_some hrenew.run_eq]
  show (tryFrom o next ctx n q u.now).aborts u = true
  rw [tryFrom_of_lt (hrenew.now_eq ▸ hlast), aborts_abort]

/-- So does the loop, with its first try. -/
theorem aborts_stage (next : Stage) (log : Logger) (hlive : ctx.reasonIn w = none)
    (hreplay : r.body.canReplay w.streams = true)
    (hlast : Instant.last < w.now + o.tryTimeout.nanos) :
    (stage o next log ctx r).aborts w = true := by
  have hattempt := aborts_attempt next ctx 1 hreplay hlast
  rw [stage]
  cases max o.maxTries.toNat 1 - 1 with
  | zero =>
    rw [tries_zero, aborts_act, World.perform_reason, hlive]
    exact aborts_bind hattempt _
  | succ left =>
    rw [tries_succ, aborts_act, World.perform_reason, hlive]
    exact aborts_bind hattempt _

end Retry

/-! ## Default pipelines -/

/-- The send is refused in one try: nothing waits, no time passes, no stream is taken. -/
structure RefusedOnce (p : Activity Outcome) (w v : World) : Prop where
  refused : p.run w =
    (some (.error (.transport ⟨.shutdown, "HTTP sender has been shut down", none⟩)), v)
  now_eq : v.now = w.now
  streams_eq : v.streams = w.streams
  unwaited : ∀ e ∈ p.trace w, ∃ d u, e = .acts d u
  tries : p.seen Event.try? w = [1]

lemma RefusedOnce.of_straight {p : Activity Outcome} {w v : World} {q : Request}
    (front : List Act) {rest : List Act}
    (h : p.Straight w (front ++ .rewind q 1 :: rest) (.error HttpSender.refusal) v)
    (hfront : ∀ d ∈ front, d.IsAside) (hrest : ∀ d ∈ rest, d.IsAside) : RefusedOnce p w v where
  refused := h.run_eq
  now_eq := h.now_eq
  streams_eq := h.kept fun d hd u => by
    rcases List.mem_append.1 hd with hd | hd
    · exact (hfront d hd).streams_perform u
    · rcases List.mem_cons.1 hd with rfl | hd
      · rfl
      · exact (hrest d hd).streams_perform u
  unwaited := fun e he => by
    obtain ⟨d, -, u, rfl⟩ := h.of_mem_trace he
    exact ⟨d, u, rfl⟩
  tries := by
    rw [h.seen_eq (g := Act.try?) fun _ _ => rfl, List.flatMap_append, List.flatMap_cons,
      Act.IsAside.flatMap_try?_eq_nil hfront, Act.IsAside.flatMap_try?_eq_nil hrest]
    rfl

/-- **A default pipeline whose sender is shut down makes one try**, however many it may make. -/
theorem Pipeline.refusedOnce_send {net : Network} {s : HttpSender} {agent : HeaderValue}
    {c : Credential} (hc : c.CanSign) {retry : RetryOptions} {requestLog : RequestLogOptions}
    {own : Option HttpSender} {log : Logger} {ctx : Context} {r : Request} {w : World}
    (hlive : ctx.reasonIn w = none) (hreplay : r.body.canReplay w.streams = true)
    (hshut : w.families.isShut s.family = true)
    (hnamed : w.now + retry.withDefaults.tryTimeout.nanos ≤ Instant.last) :
    ∃ v, RefusedOnce (((defaultBuilder agent c retry requestLog).onto (s.policy net) own log).send
      ctx r) w v := by
  have hbelow : Stage.Refuses
      (c.inFront (RequestLog.stage requestLog (s.send net) log)) s.family :=
    Credential.refuses_inFront hc (RequestLog.refuses_stage _ (s.refuses_send net) log)
  rw [Pipeline.send_onto, Telemetry.stage, RequestId.stage]
  split
  · obtain ⟨as, v, hstraight, haside⟩ := Retry.exists_straight_stage
      (o := retry.withDefaults) (r := { r with headers := r.headers.insert Telemetry.header agent })
      hbelow log hlive hreplay hshut hnamed
    exact ⟨v, .of_straight [.reason ctx] hstraight (by simp [Act.IsAside]) haside⟩
  · have hnew : (Act.newId).IsAside := trivial
    obtain ⟨as, v, hstraight, haside⟩ := Retry.exists_straight_stage
      (o := retry.withDefaults) (w := (w.perform .newId).2)
      (r := RequestId.mark { r with headers := r.headers.insert Telemetry.header agent }
        (w.perform .newId).1)
      hbelow log (by rw [hnew.reasonIn_perform, hlive]) hreplay hshut hnamed
    exact ⟨v, .of_straight [.newId, .reason ctx] (.act hstraight)
      (by simp [Act.IsAside]) haside⟩

/-- Where the clock cannot name the end of the time for a try, a default pipeline breaks off,
whatever its sender is. -/
theorem Pipeline.aborts_send {sender : Policy} {agent : HeaderValue} {c : Credential}
    {retry : RetryOptions} {requestLog : RequestLogOptions} {own : Option HttpSender} {log : Logger}
    {ctx : Context} {r : Request} {w : World} (hlive : ctx.reasonIn w = none)
    (hreplay : r.body.canReplay w.streams = true)
    (hlast : Instant.last < w.now + retry.withDefaults.tryTimeout.nanos) :
    (((defaultBuilder agent c retry requestLog).onto sender own log).send ctx r).aborts w =
      true := by
  rw [Pipeline.send_onto, Telemetry.stage, RequestId.stage]
  split
  · exact Retry.aborts_stage _ log hlive hreplay hlast
  · have hnew : (Act.newId).IsAside := trivial
    rw [aborts_act]
    exact Retry.aborts_stage _ log (by rw [hnew.reasonIn_perform, hlive]) hreplay hlast

end QueueClient
