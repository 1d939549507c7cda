/-
# What reaches the wire

In a default pipeline six stages see a request before the sender does.  Each changes one thing, or
nothing, and what the sender receives is told by following a request down the chain: the user
agent is set, an id is made up unless there is one, the try gets a copy with a timeout in the URL,
and the copy is signed (`OnWire`).  The stages above are composed once, and every try starts from
the request that the loop was given, so nothing of an earlier try is left in a later one.

The chain above the slot is safe for everything that is safe on what comes out of it
(`safe_chain`); the request log below changes nothing (`safe_requestLog`).
-/
import QueueClient.Pipeline.Basic
import QueueClient.Proofs.Credential.Dates
import QueueClient.Proofs.Credential.Rotation
import QueueClient.Proofs.Retry.Tries

namespace QueueClient

open Activity

/-- Who signs the requests of a default pipeline. -/
inductive Signer where
  /-- Nobody. -/
  | anonymous
  /-- The key of an account, in a run that started at a Unix time. -/
  | sharedKey (account : String) (epoch : ℤ)

namespace Signer

/-- The credential. -/
def credential : Signer → Credential
  | anonymous => .anonymous
  | sharedKey account epoch => .sharedKey account epoch

/-- The stage for the credential in front of another one. -/
def stage : Signer → Stage → Stage
  | anonymous, next => next
  | sharedKey account epoch, next => (Credential.sharedKey account epoch).stage next

/-- The names of the headers that a default pipeline sets. -/
def headerNames : Signer → List String
  | anonymous => ["user-agent", "x-ms-client-request-id"]
  | sharedKey _ _ => ["user-agent", "x-ms-client-request-id", "x-ms-date", "authorization"]

/-- What comes of a request that is signed in a world. -/
def Signs : Signer → World → Request → Request → Prop
  | anonymous, _, r, q => q = r
  | sharedKey account epoch, v, r, q =>
    Signature.IsSigned account v.accountKey (epoch + (v.now / 1_000_000_000 : ℕ)) r q

/-- The request carries the date of a moment and the signature of itself, each as the only value of
its header; without a credential nothing is asked of it. -/
def Stamps : Signer → ℕ → List UInt8 → Request → Prop
  | anonymous, _, _, _ => True
  | sharedKey account epoch, now, key, q =>
    q.headers.values "x-ms-date" =
      [Utf8.encode (Calendar.headerDate (epoch + (now / 1_000_000_000 : ℕ)))] ∧
    Calendar.Names (Calendar.headerDate (epoch + (now / 1_000_000_000 : ℕ)))
      (epoch + (now / 1_000_000_000 : ℕ)) ∧
    q.headers.values "authorization" =
      [Utf8.encode ("SharedKey " ++ account ++ ":" ++ String.ofList
        (Base64.encode (Hmac.code key (Utf8.encode (Signature.stringToSign account q)))))]

end Signer

/-- The user agent for an application that calls itself by a value: the value without the blanks
around it, if there is anything left, and the library with the platform. -/
def configuredAgent (value : String) : String :=
  if Text.trim value = "" then "queue-storage/0.3.0 (linux; x86_64)"
  else Text.trim value ++ " queue-storage/0.3.0 (linux; x86_64)"

lemma agentText_eq (value : String) : Telemetry.agentText value = configuredAgent value := by
  have hplatform : " " ++ Telemetry.platform = " queue-storage/0.3.0 (linux; x86_64)" := by
    decide +kernel
  unfold Telemetry.agentText configuredAgent
  dsimp only
  rw [String.append_assoc, hplatform]
  simp only [String.isEmpty_iff]
  rfl

/-- The request has an id of the caller's own.  The other requests with an id are those for which a
pipeline has made one up: whoever builds a request cannot mark it so, but a policy can keep one that
has come down a pipeline and send it again. -/
def Request.HasOwnId (r : Request) : Prop :=
  r.headers.contains clientRequestIdHeader = true ∧ r.generatedId = false

/-- The request `q`, received now with the context `c`, is what a default pipeline makes of the
caller's request `r`. -/
structure OnWire (o : PipelineOptions) (signer : Signer) (ctx : Context) (r : Request) (now : ℕ)
    (key : List UInt8) (c : Context) (q : Request) : Prop where
  method : q.method = r.method
  body : q.body = r.body
  /-- The context of the try ends with the time for it or with the caller's. -/
  deadline : c.deadline = some (Retry.tryEnd o.retry.withDefaults ctx now)
  /-- The service is told what is left until then. -/
  url : q.url = r.url.setServerTimeout
    (Instant.since (Retry.tryEnd o.retry.withDefaults ctx now) now)
  agent : q.headers.values "user-agent" = [Utf8.encode (configuredAgent o.telemetry)]
  /-- The id of the caller is kept. -/
  id_kept : r.HasOwnId →
    q.headers.values "x-ms-client-request-id" = r.headers.values "x-ms-client-request-id"
  /-- Without one there is one that was made up. -/
  id_made : r.headers.contains "x-ms-client-request-id" = false →
    ∃ id, q.headers.values "x-ms-client-request-id" = [Utf8.encode id]
  others : ∀ name ∉ signer.headerNames, q.headers.values name = r.headers.values name
  stamps : signer.Stamps now key q

/-! ## From stage to stage -/

variable {P : Context → Request → World → Prop} {o : PipelineOptions} {signer : Signer}
  {log : Logger} {ctx c : Context} {r q : Request} {next : Stage} {v w : World}

lemma Signer.safe_stage
    (hnext : ∀ q', signer.Signs v q q' → (next c q').Safe (Act.CallsAre P) (fun _ _ => True) v) :
    (signer.stage next c q).Safe (Act.CallsAre P) (fun _ _ => True) v := by
  cases signer with
  | anonymous => exact hnext q rfl
  | sharedKey account epoch =>
    refine ⟨Act.IsQuiet.callsAre trivial, Act.IsQuiet.callsAre trivial, ?_⟩
    show ((Activity.done (Signature.signAt account v.accountKey _ q)).bind _).Safe _ _ v
    rw [bind_done]
    split
    · rename_i q' hq
      exact hnext q' (Signature.signAt_spec hq)
    · trivial

lemma safe_requestLog {options : RequestLogOptions}
    (hnext : ∀ records, (next c q).Safe (Act.CallsAre P) (fun _ _ => True) { v with records }) :
    (RequestLog.stage options next log c q).Safe (Act.CallsAre P) (fun _ _ => True) v := by
  refine (log.safe_log _ _ v).bind fun _ u hu => ?_
  obtain ⟨records, rfl⟩ := hu
  refine ⟨Act.IsQuiet.callsAre trivial, ?_⟩
  refine (hnext records).bind fun outcome u _ => ?_
  refine ⟨Act.IsQuiet.callsAre trivial, ?_⟩
  exact (log.safe_log _ _ u).bind fun _ _ _ => trivial

/-- The stages in front of the credential have made `q` of the caller's request `r`: it has the user
agent and an id. -/
structure IsPrepared (agent : HeaderValue) (r q : Request) : Prop where
  method : q.method = r.method
  body : q.body = r.body
  url : q.url = r.url
  agent : q.headers.values Telemetry.header = [agent]
  id_kept : r.HasOwnId →
    q.headers.values clientRequestIdHeader = r.headers.values clientRequestIdHeader
  id_made : r.headers.contains clientRequestIdHeader = false →
    ∃ id, q.headers.values clientRequestIdHeader = [Utf8.encode id]
  /-- An id counts as made up only if it is, or if the caller says so. -/
  made : q.generatedId = true → r.headers.contains clientRequestIdHeader = true →
    r.generatedId = true
  others : ∀ name, name ≠ Telemetry.header → name ≠ clientRequestIdHeader →
    q.headers.values name = r.headers.values name

/-- The request with the user agent. -/
abbrev withAgent (agent : HeaderValue) (r : Request) : Request :=
  { r with headers := r.headers.insert Telemetry.header agent }

namespace IsPrepared

variable {agent : HeaderValue} {id : String}

lemma of_withAgent (h : r.headers.contains clientRequestIdHeader = true) :
    IsPrepared agent r (withAgent agent r) where
  method := rfl
  body := rfl
  url := rfl
  agent := Headers.values_insert_self _ _ _
  id_kept := fun _ => Headers.values_insert_of_ne _ _ (by decide)
  id_made := fun hnone => by rw [h] at hnone; cases hnone
  made := fun hmade _ => hmade
  others := fun name hagent _ => Headers.values_insert_of_ne _ _ hagent

lemma of_mark (h : r.headers.contains clientRequestIdHeader = false) (id : String) :
    IsPrepared agent r (RequestId.mark (withAgent agent r) id) where
  method := rfl
  body := rfl
  url := rfl
  agent := by
    rw [RequestId.mark, Headers.values_insert_of_ne _ _ (by decide), Headers.values_insert_self]
  id_kept := fun hown => nomatch h.symm.trans hown.1
  id_made := fun _ => ⟨id, Headers.values_insert_self _ _ _⟩
  made := fun _ hgiven => by rw [h] at hgiven; cases hgiven
  others := fun name hagent hid => by
    rw [RequestId.mark, Headers.values_insert_of_ne _ _ hid, Headers.values_insert_of_ne _ _ hagent]

/-- A copy for a try is prepared as well. -/
lemma of_isCopy {n : ℕ} {copy : Request} (h : IsPrepared agent r q)
    (hcopy : Retry.IsCopy n q copy) : IsPrepared agent r copy := by
  rcases hcopy with rfl | ⟨-, hmade, id, rfl⟩
  · exact h
  · exact
      { method := h.method
        body := h.body
        url := h.url
        agent := by rw [Headers.values_insert_of_ne _ _ (by decide), h.agent]
        id_kept := fun hown => nomatch (h.made hmade hown.1).symm.trans hown.2
        id_made := fun _ => ⟨id, Headers.values_insert_self _ _ _⟩
        made := h.made
        others := fun name hagent hid => by
          rw [Headers.values_insert_of_ne _ _ hid, h.others name hagent hid] }

end IsPrepared

lemma Headers.contains_insert_of_ne {h : Headers} {n m : String} (v : HeaderValue) (hne : m ≠ n) :
    (h.insert n v).contains m = h.contains m := by
  rw [Headers.contains_eq, Headers.contains_eq, Headers.values_insert_of_ne _ _ hne]

/-- The user agent does not make a difference to whether there is an id. -/
lemma contains_withAgent (agent : HeaderValue) (r : Request) :
    (withAgent agent r).headers.contains clientRequestIdHeader =
      r.headers.contains clientRequestIdHeader :=
  Headers.contains_insert_of_ne _ (by decide)

/-- What is signed of a prepared request is what goes on the wire. -/
lemma onWire_of_signs {n : ℕ} {q₁ q₂ q' : Request}
    (hq : IsPrepared (Utf8.encode (Telemetry.agentText o.telemetry)) r q₁)
    (htry : Retry.IsTry o.retry.withDefaults ctx q₁ n c q₂ v) (hsigns : signer.Signs v q₂ q') :
    OnWire o signer ctx r v.now v.accountKey c q' := by
  obtain ⟨copy, hcopy, rfl⟩ := htry.request
  obtain ⟨token, rfl⟩ := htry.context
  rw [agentText_eq] at hq
  have h := hq.of_isCopy hcopy
  -- the deadline of the try is not after that of the caller, with which it is taken again
  have hdeadline : (ctx.deriveFor token n
      (Retry.tryEnd o.retry.withDefaults ctx v.now)).deadline =
        some (Retry.tryEnd o.retry.withDefaults ctx v.now) :=
    congrArg some (earliest_earliest _ _)
  cases signer with
  | anonymous =>
    obtain rfl : q' = _ := hsigns
    refine ⟨h.method, h.body, hdeadline, by rw [h.url], h.agent, h.id_kept, h.id_made,
      fun name hname => ?_, trivial⟩
    simp only [Signer.headerNames, List.mem_cons, List.not_mem_nil, or_false, not_or] at hname
    exact h.others name hname.1 hname.2
  | sharedKey account epoch =>
    have hs : Signature.IsSigned account v.accountKey (epoch + (v.now / 1_000_000_000 : ℕ)) _ q' :=
      hsigns
    refine ⟨hs.method.trans h.method, hs.body.trans h.body, hdeadline, ?_, ?_,
      fun hown => ?_, fun hnone => ?_, fun name hname => ?_, hs.date, Calendar.names_headerDate _,
      hs.authorization⟩
    · rw [hs.url, h.url]
    · exact (hs.others _ (by decide) (by decide)).trans h.agent
    · exact (hs.others _ (by decide) (by decide)).trans (h.id_kept hown)
    · obtain ⟨id, hid⟩ := h.id_made hnone
      exact ⟨id, (hs.others _ (by decide) (by decide)).trans hid⟩
    · simp only [Signer.headerNames, List.mem_cons, List.not_mem_nil, or_false, not_or] at hname
      rw [hs.others name hname.2.2.1 hname.2.2.2, h.others name hname.1 hname.2.1]

/-- **What is safe for everything that reaches the wire makes the chain above it safe.** -/
theorem safe_chain
    (hnext : ∀ c q v, OnWire o signer ctx r v.now v.accountKey c q →
      (next c q).Safe (Act.CallsAre P) (fun _ _ => True) v) (w : World) :
    (Telemetry.stage (Utf8.encode (Telemetry.agentText o.telemetry))
      (RequestId.stage (Retry.stage o.retry.withDefaults (signer.stage next) log)) ctx r).Safe
        (Act.CallsAre P) (fun _ _ => True) w := by
  have hretry : ∀ q u, IsPrepared (Utf8.encode (Telemetry.agentText o.telemetry)) r q →
      (Retry.stage o.retry.withDefaults (signer.stage next) log ctx q).Safe (Act.CallsAre P)
        (fun _ _ => True) u := fun q u hq =>
    (Retry.safe_tries (fun n c q' v htry => Signer.safe_stage fun q'' hsigns =>
      hnext c q'' v (onWire_of_signs hq htry hsigns)) _ _ u).mono (fun _ _ h => h)
        fun _ _ _ => trivial
  rw [Telemetry.stage, RequestId.stage]
  -- the id is looked for when the user agent is set already
  have hcontains := contains_withAgent (Utf8.encode (Telemetry.agentText o.telemetry)) r
  split
  · rename_i h
    exact hretry _ w (.of_withAgent (hcontains ▸ h))
  · rename_i h
    refine ⟨Act.IsQuiet.callsAre trivial, ?_⟩
    exact hretry _ _ (.of_mark (hcontains ▸ Bool.eq_false_iff.mpr h) _)

/-- What holds of all calls, given the time and the key, holds with the key that was stored last. -/
lemma Activity.Safe.at_call {α : Type} {p : Activity α} {Q : α → World → Prop}
    {P : Context → Request → ℕ → List UInt8 → Prop} {before after : List Event}
    (h : p.Safe (Act.CallsAre fun c q v => P c q v.now v.accountKey) Q w)
    (htrace : p.trace w = before ++ .acts (.arrive c q) v :: after) :
    P c q v.now (keyAfter before w.accountKey) := by
  have hkey : v.accountKey = keyAfter before w.accountKey := accountKey_eq_keyAfter htrace
  rw [← hkey]
  exact h.mem_trace (htrace ▸ List.mem_append_right _ List.mem_cons_self) c q rfl

/-! ## Default pipelines -/

/-- The pipeline with another sender at its end. -/
def Pipeline.receiving (p : Pipeline) (sender : Callee) : Pipeline :=
  { p with sender := ⟨p.sender.name, fun _ _ => sender.stage⟩ }

/-- A pipeline is built from the policies of its builder. -/
lemma PipelineBuilder.safe_build (b : PipelineBuilder) (o : PipelineOptions)
    (collector : Collector) (net : Network) (w : World) :
    (b.build o collector net).Safe (fun _ _ => True) (fun x _ => ∀ p, x = .ok p →
      ∃ sender own, p = b.onto sender own ⟨o.sink, collector⟩) w := by
  have hannounce : ∀ sender own v,
      (PipelineBuilder.announce (b.onto sender own ⟨o.sink, collector⟩)).Safe (fun _ _ => True)
        (fun x _ => ∀ p, x = .ok p → ∃ sender own, p = b.onto sender own ⟨o.sink, collector⟩) v :=
    fun sender own v => ⟨trivial, fun p hp => ⟨sender, own, (Except.ok.inj hp).symm⟩⟩
  rw [PipelineBuilder.build]
  split
  · exact hannounce _ _ w
  · refine (Safe.of_true _ w).bind fun x v _ => ?_
    cases x with
    | error e => exact fun p hp => by cases hp
    | ok s => exact hannounce _ _ v

lemma Pipeline.eq_onto_of_new {credential : Credential} {collector : Collector} {net : Network}
    {p : Pipeline}
    (hp : (Pipeline.new (some credential) o collector net).run w = (some (.ok p), v)) :
    ∃ sender own, p = (defaultBuilder (Utf8.encode (Telemetry.agentText o.telemetry))
      credential o.retry o.requestLog).onto sender own ⟨o.sink, collector⟩ := by
  rw [Pipeline.new, Telemetry.userAgent] at hp
  cases hagent : Headers.value? (Telemetry.agentText o.telemetry) with
  | none => simp [hagent] at hp
  | some agent =>
    simp only [hagent] at hp
    rw [← Signature.value?_eq_some hagent]
    exact (PipelineBuilder.safe_build _ o collector net w).result hp p rfl

/-- Over a sender that is given, building cannot fail. -/
lemma Pipeline.run_new_of_sender {credential : Credential} {sender : Policy} {agent : HeaderValue}
    (hagent : Headers.value? (Telemetry.agentText o.telemetry) = some agent)
    (hsender : o.sender = some sender) (collector : Collector) (net : Network) (w : World) :
    ∃ v, (Pipeline.new (some credential) o collector net).run w =
      (some (.ok ((defaultBuilder agent credential o.retry o.requestLog).onto sender none
        ⟨o.sink, collector⟩)), v) := by
  simp only [Pipeline.new, Telemetry.userAgent, hagent, PipelineBuilder.build, hsender]
  exact ⟨_, rfl⟩

/-- The stages of a default pipeline, with one of the caller's in the slot. -/
lemma Pipeline.sendWith_receiving {sender : Policy} {own : Option HttpSender} {method : Policy}
    (agent : HeaderValue) (signer : Signer) (retry : RetryOptions)
    (requestLog : RequestLogOptions) (log : Logger) (receiver : Callee) :
    ((((defaultBuilder agent signer.credential retry requestLog).onto sender own log).receiving
        receiver).sendWith method ctx r) =
      Telemetry.stage agent (RequestId.stage (Retry.stage retry.withDefaults (signer.stage
        (method.create (RequestLog.stage requestLog receiver.stage log) log)) log)) ctx r := by
  cases signer <;> rfl

/-- Without a policy for the slot requests go through. -/
lemma Pipeline.send_eq_sendWith (p : Pipeline) (ctx : Context) (r : Request) :
    p.send ctx r = p.sendWith Policy.slotMarker ctx r := rfl

/-- What a credential makes of a request that is sent; one without a stage leaves it as it is. -/
def Credential.passes (c : Credential) (r : Request) : Activity (Except Error Request) :=
  if c.isAnonymous then .done (.ok r) else c.sign r

/-- What is done with a request that a credential has passed or not. -/
def Credential.forward (next : Stage) (ctx : Context) : Except Error Request → Activity Outcome
  | .ok r => next ctx r
  | .error e => .done (.error e)

/-- The stage for a credential in front of another one, if it needs one. -/
def Credential.inFront (c : Credential) (next : Stage) : Stage := fun ctx r =>
  (c.passes r).bind (forward next ctx)

/-- The stages of a default pipeline, for every credential. -/
lemma Pipeline.send_onto {sender : Policy} {own : Option HttpSender} (agent : HeaderValue)
    (credential : Credential) (retry : RetryOptions) (requestLog : RequestLogOptions)
    (log : Logger) :
    ((defaultBuilder agent credential retry requestLog).onto sender own log).send ctx r =
      Telemetry.stage agent (RequestId.stage (Retry.stage retry.withDefaults (credential.inFront
        (RequestLog.stage requestLog (sender.create endOfPipeline log) log)) log)) ctx r := by
  obtain ⟨isAnonymous, sign⟩ := credential
  cases isAnonymous <;> rfl

lemma Pipeline.send_receiving {sender : Policy} {own : Option HttpSender}
    (agent : HeaderValue) (credential : Credential) (retry : RetryOptions)
    (requestLog : RequestLogOptions) (log : Logger) (receiver : Callee) :
    ((((defaultBuilder agent credential retry requestLog).onto sender own log).receiving
        receiver).send ctx r) =
      Telemetry.stage agent (RequestId.stage (Retry.stage retry.withDefaults (credential.inFront
        (RequestLog.stage requestLog receiver.stage log)) log)) ctx r := by
  show ((defaultBuilder agent credential retry requestLog).onto
    ⟨sender.name, fun _ _ => receiver.stage⟩ own log).send ctx r = _
  exact Pipeline.send_onto agent credential retry requestLog log

/-- What is safe for everything that reaches the slot makes sending safe. -/
lemma Pipeline.safe_sendWith {collector : Collector} {net : Network} {p : Pipeline} {u : World}
    {method : Policy} {receiver : Callee}
    (hp : (Pipeline.new (some signer.credential) o collector net).run w = (some (.ok p), v))
    (hslot : ∀ c q v, OnWire o signer ctx r v.now v.accountKey c q →
      (method.create (RequestLog.stage o.requestLog receiver.stage p.log) p.log c q).Safe
        (Act.CallsAre P) (fun _ _ => True) v) :
    ((p.receiving receiver).sendWith method ctx r).Safe (Act.CallsAre P) (fun _ _ => True) u := by
  obtain ⟨sender, own, rfl⟩ := Pipeline.eq_onto_of_new hp
  rw [Pipeline.sendWith_receiving]
  exact safe_chain hslot u

/-- Every call among the events is of a request as it should be on the wire, signed with the key
that was stored last before it. -/
def AllOnWire (o : PipelineOptions) (signer : Signer) (ctx : Context) (r : Request)
    (events : List Event) (key : List UInt8) : Prop :=
  ∀ before c q v after, events = before ++ .acts (.arrive c q) v :: after →
    OnWire o signer ctx r v.now (keyAfter before key) c q

lemma Pipeline.allOnWire_send {collector : Collector} {net : Network} {p : Pipeline}
    (hp : (Pipeline.new (some signer.credential) o collector net).run w = (some (.ok p), v))
    (receiver : Callee) (ctx : Context) (r : Request) (u : World) :
    AllOnWire o signer ctx r (((p.receiving receiver).send ctx r).trace u) u.accountKey := by
  intro before c q v after htrace
  rw [Pipeline.send_eq_sendWith] at htrace
  have hsafe : ((p.receiving receiver).sendWith Policy.slotMarker ctx r).Safe
      (Act.CallsAre fun c q v => OnWire o signer ctx r v.now v.accountKey c q)
      (fun _ _ => True) u :=
    Pipeline.safe_sendWith hp fun c q v h => safe_requestLog fun _ => Safe.call h
  exact Safe.at_call (P := fun c q now key => OnWire o signer ctx r now key c q) hsafe htrace

/-! ## Keys that are replaced under way -/

section Rotation

variable {keys : ℕ → List (List UInt8)} {n : ℕ}

namespace Retry

lemma rotates_attempt {o : RetryOptions} (hnext : ∀ c q, Rotates keys [] (next c q)) :
    Rotates keys [] (attempt o next ctx n r) := by
  rw [attempt_eq]
  refine Rotates.act (a := .rewind r n) trivial ?_
  rintro (e | copy)
  · exact rfl
  · refine (Rotates.of_all (all_renew trivial n copy)).bind fun q => ?_
    refine Rotates.act (a := .now) trivial fun now => ?_
    refine (Rotates.of_all (All.expect _)).bind fun limit => ?_
    refine Rotates.act (a := .branch ctx.token) trivial fun token => ?_
    exact (hnext _ _).timeoutAt.untilDone.bind fun x => .of_all (all_conclude trivial n x)

lemma rotates_tries {o : RetryOptions} (hnext : ∀ c q, Rotates keys [] (next c q)) (left n : ℕ) :
    Rotates keys [] (tries o log next ctx r left n) := by
  induction left generalizing n with
  | zero =>
    rw [tries_zero]
    refine Rotates.act (a := .reason ctx) trivial ?_
    rintro (_ | reason)
    · refine (rotates_attempt hnext).bind fun outcome => ?_
      split
      · exact rfl
      · exact (Rotates.of_all (All.log (fun _ => trivial) _ _ _)).bind fun _ => rfl
    · exact rfl
  | succ left ih =>
    rw [tries_succ]
    refine Rotates.act (a := .reason ctx) trivial ?_
    rintro (_ | reason)
    · refine (rotates_attempt hnext).bind fun outcome => ?_
      split
      · exact rfl
      · refine (Rotates.of_all (all_pause trivial (fun _ => trivial) trivial (fun _ => trivial)
          trivial _ _)).bind ?_
        rintro (reason | _)
        · exact rfl
        · exact ih (n + 1)
    · exact rfl

end Retry

/-- The stages of a default pipeline have nothing to do with the keys that the last one stores. -/
lemma Pipeline.rotates_send {collector : Collector} {net : Network} {p : Pipeline}
    (hp : (Pipeline.new (some signer.credential) o collector net).run w = (some (.ok p), v))
    {receiver : Callee} (h : ∀ c q, Rotates keys [] (receiver.stage c q)) :
    Rotates keys [] ((p.receiving receiver).send ctx r) := by
  obtain ⟨sender, own, rfl⟩ := Pipeline.eq_onto_of_new hp
  rw [Pipeline.send_eq_sendWith, Pipeline.sendWith_receiving]
  have hlog : ∀ c q, Rotates keys [] (RequestLog.stage o.requestLog receiver.stage
      ⟨o.sink, collector⟩ c q) := fun c q =>
    (Rotates.of_all (All.log (fun _ => trivial) _ _ _)).bind fun _ =>
      Rotates.act (a := .now) trivial fun _ => (h c q).bind fun _ =>
        Rotates.act (a := .now) trivial fun _ =>
          (Rotates.of_all (All.log (fun _ => trivial) _ _ _)).bind fun _ => rfl
  have hsigner : ∀ c q, Rotates keys [] (signer.stage (Policy.slotMarker.create
      (RequestLog.stage o.requestLog receiver.stage ⟨o.sink, collector⟩) ⟨o.sink, collector⟩)
        c q) := by
    intro c q
    cases signer with
    | anonymous => exact hlog c q
    | sharedKey account epoch =>
      refine Rotates.act (a := .now) trivial fun now => ?_
      refine Rotates.act (a := .accountKey) trivial fun key => ?_
      show Rotates keys [] ((Activity.done _).bind _)
      rw [bind_done]
      split
      · exact hlog c _
      · exact rfl
  rw [Telemetry.stage, RequestId.stage]
  split
  · exact Retry.rotates_tries hsigner _ _
  · exact Rotates.act (a := .newId) trivial fun _ => Retry.rotates_tries hsigner _ _

end Rotation

lemma lastKey_append (before texts : List String) (key : List UInt8) :
    lastKey (before ++ texts) key = lastKey texts (lastKey before key) := by
  induction before generalizing key with
  | nil => rfl
  | cons text before ih => rw [List.cons_append, lastKey_cons, ih, lastKey_cons]

/-- **What reaches the wire.**  Whatever signs, every request that the sender of a default pipeline
receives, in every try of every run, is the caller's request but for the user agent, the id, the
timeout in the URL and the stamps of the signer; and the signature is that of the received request
under the key that was stored last.  If keys are replaced by calls with some texts before the run
and with some more whenever the sender is called, this is the key of the last of these calls that
was successful. -/
theorem pipeline_onWire (signer : Signer) (o : PipelineOptions) (collector : Collector)
    (net : Network) (w₀ w₁ : World) (p : Pipeline)
    (hp : (Pipeline.new (some signer.credential) o collector net).run w₀ = (some (.ok p), w₁))
    (receiver : Callee) (ctx : Context) (r : Request) (w : World) :
    AllOnWire o signer ctx r (((p.receiving receiver).send ctx r).trace w) w.accountKey ∧
    ∀ (before : List String) (texts : ℕ → List String),
      (∀ n c q, (receiver.answer n c q).All Act.SparesKey) →
      ∀ n call, (((p.receiving (receiver.rotating texts)).send ctx r).calls
          ((Credential.replaceKeys before).run w).2)[n]? = some call →
        OnWire o signer ctx r call.world.now
          (lastKey (before ++ (List.range n).flatMap fun i => texts (w.arrivals.length + i))
            w.accountKey) call.context call.request := by
  refine ⟨Pipeline.allOnWire_send hp receiver ctx r w, fun before texts hspares n call hcall => ?_⟩
  rw [Credential.run_replaceKeys] at hcall
  set u : World := { w with accountKey := lastKey before w.accountKey } with hu
  change (Activity.calls _ u)[n]? = some call at hcall
  have hkey := (Pipeline.rotates_send hp (Callee.rotates_rotating hspares texts)).accountKey_of_call
    hcall
  have hlast : lastKey (before ++ (List.range n).flatMap fun i => texts (w.arrivals.length + i))
      w.accountKey = call.world.accountKey := by
    rw [hkey, lastKey_append, lastKey, List.filterMap_flatMap]
    rfl
  rw [hlast]
  -- the call is an event of the run, and the key in its world is the one that it is signed with
  obtain ⟨earlier, later, htrace⟩ := List.append_of_mem
    (mem_calls.mp (List.mem_of_getElem? hcall))
  have hsigned : call.world.accountKey = keyAfter earlier u.accountKey :=
    accountKey_eq_keyAfter htrace
  rw [hsigned]
  exact Pipeline.allOnWire_send hp _ ctx r u earlier _ _ _ later htrace

/-- A stage that takes every request. -/
def accepting : Callee := ⟨fun _ _ r => .done (.ok (.new .ok r)), fun _ _ _ => trivial⟩

/-- Options for two tries of three seconds without logging, over a sender that does not matter. -/
def bareOptions : PipelineOptions :=
  { PipelineOptions.default with
    log := some .discard
    retry := ⟨.fixed, 2, .ofSecs 3, .ofSecs 1, .ofSecs 3⟩
    sender := some Policy.slotMarker }

/-- The pipeline of an account with these options. -/
def barePipeline (account : String) (epoch : ℤ) : Pipeline :=
  (defaultBuilder (Utf8.encode Telemetry.platform) (Credential.sharedKey account epoch)
    bareOptions.retry bareOptions.requestLog).onto Policy.slotMarker none ⟨.discard, none⟩

lemma run_new_barePipeline (account : String) (epoch : ℤ) (w : World) :
    ∃ v, (Pipeline.new (some (Signer.sharedKey account epoch).credential) bareOptions none
      fun _ _ => .never).run w = (some (.ok (barePipeline account epoch)), v) :=
  Pipeline.run_new_of_sender (by decide +kernel) rfl none _ w

/-- A request of that pipeline in a fresh world: there is one call, and it is as it should be. -/
theorem pipeline_onWire_barePipeline :
    ∃ v, (Pipeline.new (some (Signer.sharedKey "myaccount" 1714979289).credential) bareOptions none
        fun _ _ => .never).run (.start []) =
          (some (.ok (barePipeline "myaccount" 1714979289)), v) ∧
      ((((barePipeline "myaccount" 1714979289).receiving accepting).send (.ofToken ⟨[0]⟩)
        (.new "GET" default)).calls (.start [])).length = 1 ∧
      AllOnWire bareOptions (.sharedKey "myaccount" 1714979289) (.ofToken ⟨[0]⟩)
        (.new "GET" default)
        ((((barePipeline "myaccount" 1714979289).receiving accepting).send (.ofToken ⟨[0]⟩)
          (.new "GET" default)).trace (.start [])) [] := by
  obtain ⟨v, hp⟩ := run_new_barePipeline "myaccount" 1714979289 (.start [])
  refine ⟨v, hp, ?_, (pipeline_onWire _ _ _ _ _ _ _ hp _ _ _ _).1⟩
  rw [barePipeline, Credential.sharedKey_eq _ (by decide +kernel)]
  decide +kernel

end QueueClient
