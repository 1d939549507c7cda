/-
# Signatures stay out of the log

Two requests that differ in the signatures in their URLs only are sent through the same pipeline in
the same world.  All stages of the pipeline do the same with both, act by act and wait by wait
(`Stage.TreatsAlike`), as long as what signs and what sends do: the URL is rewritten for each try
and masked for each entry, both of which keep or remove the difference, and nothing else of a
request is looked at.  So the two runs are in step, and they write the same.

What a pipeline does with a request that comes back is told by what a response and an error have
besides the request (`Outcome.Alike`), so that the entries about failures and tries are the same
too.

The header with the signature of the account differs, as it signs the whole URL.
-/
import QueueClient.Proofs.Activity.InStep
import QueueClient.Proofs.Pipeline.Wire
import QueueClient.Proofs.Retry.Rounds
import QueueClient.Proofs.Url.Signatures

namespace QueueClient

open Activity

/-! ## Requests and outcomes that are alike -/

/-- The requests are the same but for the signatures in their URLs. -/
structure Request.SameButSignatures (r r' : Request) : Prop where
  rest : r' = { r with url := r'.url }
  url : r.url.SameButSignatures r'.url

/-- The requests are the same but for the signatures in their URLs and in the header for one. -/
structure Request.Alike (r r' : Request) : Prop where
  method : r'.method = r.method
  url : r.url.SameButSignatures r'.url
  body : r'.body = r.body
  generatedId : r'.generatedId = r.generatedId
  headers : ∀ name, name ≠ Signature.authorizationHeader →
    r'.headers.values name = r.headers.values name

/-- The responses are the same but for what they keep of their requests. -/
def Response.Alike (x y : Response) : Prop := ∃ request, y = { x with request }

/-- The errors are the same but for what a response keeps of its request. -/
inductive Error.Alike : Error → Error → Prop where
  | same (e : Error) : Error.Alike e e
  | service (code : Option String) (message : String) {x y : Response} (h : x.Alike y) :
    Error.Alike (.service ⟨code, message, x⟩) (.service ⟨code, message, y⟩)

/-- The outcomes are the same but for what a response keeps of its request. -/
inductive Outcome.Alike : Outcome → Outcome → Prop where
  | ok {x y : Response} (h : x.Alike y) : Outcome.Alike (.ok x) (.ok y)
  | error {e f : Error} (h : e.Alike f) : Outcome.Alike (.error e) (.error f)

namespace Request

variable {r r' q q' : Request}

lemma SameButSignatures.alike (h : r.SameButSignatures r') : r.Alike r' where
  method := by rw [h.rest]
  url := h.url
  body := by rw [h.rest]
  generatedId := by rw [h.rest]
  headers := fun name _ => by rw [h.rest]

namespace Alike

/-- A header can be set in both. -/
lemma insert (h : r.Alike r') (name : String) (v : HeaderValue) :
    Alike { r with headers := r.headers.insert name v }
      { r' with headers := r'.headers.insert name v } where
  method := h.method
  url := h.url
  body := h.body
  generatedId := h.generatedId
  headers := fun n hn => by
    by_cases heq : n = name
    · rw [heq, Headers.values_insert_self, Headers.values_insert_self]
    · rw [Headers.values_insert_of_ne _ _ heq, Headers.values_insert_of_ne _ _ heq, h.headers n hn]

/-- A server timeout can be set in both. -/
lemma setServerTimeout (h : r.Alike r') (budget : Duration) :
    Alike { r with url := r.url.setServerTimeout budget }
      { r' with url := r'.url.setServerTimeout budget } :=
  { h with url := h.url.setServerTimeout budget }

lemma contains_eq (h : r.Alike r') {name : String} (hn : name ≠ Signature.authorizationHeader) :
    r'.headers.contains name = r.headers.contains name := by
  rw [Headers.contains_eq, Headers.contains_eq, h.headers name hn]

/-- **What is logged of a request is the same of both.** -/
theorem subject_eq (h : r.Alike r') (ctx : Context) :
    RequestLog.Subject.of ctx r' = RequestLog.Subject.of ctx r := by
  have hid : r'.clientRequestId? = r.clientRequestId? := by
    rw [clientRequestId?, clientRequestId?, Headers.text?, Headers.get?,
      h.headers clientRequestIdHeader (by decide), Headers.text?, Headers.get?]
  rw [RequestLog.Subject.of, RequestLog.Subject.of, h.method, h.url.redact_eq, hid]

end Alike

end Request

namespace Error.Alike

variable {e f : Error}

lemma text_eq (h : e.Alike f) : f.text = e.text := by
  cases h with
  | same => rfl
  | service code message hxy =>
    obtain ⟨request, rfl⟩ := hxy
    rfl

lemma isTransient_eq (h : e.Alike f) : f.isTransient = e.isTransient := by
  cases h with
  | same => rfl
  | service code message hxy =>
    obtain ⟨request, rfl⟩ := hxy
    rfl

lemma isCancellation_eq (h : e.Alike f) : f.isCancellation = e.isCancellation := by
  cases h with
  | same => rfl
  | service code message hxy => rfl

end Error.Alike

namespace Outcome.Alike

variable {x y : Outcome}

/-- Whether there is another try, and what is written about it, does not depend on the request. -/
lemma cause?_eq (h : Alike x y) : Retry.cause? y = Retry.cause? x := by
  cases h with
  | ok hxy =>
    obtain ⟨request, rfl⟩ := hxy
    rfl
  | error hef => rw [Retry.cause?, Retry.cause?, hef.isTransient_eq, hef.text_eq]

lemma outcomeLevel_eq (h : Alike x y) (threshold : Option Duration) (elapsed : Duration) :
    RequestLog.outcomeLevel threshold y elapsed = RequestLog.outcomeLevel threshold x elapsed := by
  cases h with
  | ok hxy =>
    obtain ⟨request, rfl⟩ := hxy
    rfl
  | error hef => rfl

/-- The entry about an outcome does not depend on what the response keeps of its request. -/
lemma closingText_eq (h : Alike x y) (s : RequestLog.Subject) (threshold : Option Duration)
    (elapsed : Duration) :
    RequestLog.closingText s threshold y elapsed =
      RequestLog.closingText s threshold x elapsed := by
  unfold RequestLog.closingText
  cases h with
  | ok hxy =>
    obtain ⟨request, rfl⟩ := hxy
    rfl
  | error hef => simp only [hef.text_eq]

end Outcome.Alike

/-! ## Stages that do the same -/

/-- With requests in a relation the stage does the same. -/
def Stage.TreatsAlike (P : Request → Request → Prop) (s : Stage) : Prop :=
  ∀ ctx q q', P q q' → Activity.InStep Outcome.Alike (s ctx q) (s ctx q')

/-- Copies of two requests: they are alike, with the same URLs. -/
structure Retry.CopiesOf (u u' : Url) (q q' : Request) : Prop where
  alike : q.Alike q'
  url : q.url = u
  url' : q'.url = u'

/-- Tries of two requests: they are alike, with the same server timeout in the URLs. -/
structure Retry.TriesOf (u u' : Url) (q q' : Request) : Prop where
  alike : q.Alike q'
  urls : ∃ budget, q.url = u.setServerTimeout budget ∧ q'.url = u'.setServerTimeout budget

section Stages

variable {P : Request → Request → Prop} {next : Stage} {u u' : Url}

lemma Telemetry.treatsAlike_stage (agent : HeaderValue)
    (h : next.TreatsAlike (Retry.CopiesOf u u')) :
    (Telemetry.stage agent next).TreatsAlike (Retry.CopiesOf u u') := by
  intro ctx q q' hq
  exact h ctx _ _ ⟨hq.alike.insert _ agent, hq.url, hq.url'⟩

lemma RequestId.treatsAlike_stage (h : next.TreatsAlike (Retry.CopiesOf u u')) :
    (RequestId.stage next).TreatsAlike (Retry.CopiesOf u u') := by
  intro ctx q q' hq
  rw [RequestId.stage, RequestId.stage, hq.alike.contains_eq (by decide)]
  split
  · exact h ctx _ _ hq
  · refine .act .newId fun id => h ctx _ _ ⟨?_, hq.url, hq.url'⟩
    exact { hq.alike.insert clientRequestIdHeader (Utf8.encode id) with generatedId := rfl }

/-- What is signed alike is sent alike. -/
lemma Credential.treatsAlike_inFront {Q : Request → Request → Prop} {credential : Credential}
    (hcredential : ∀ q q', Q q q' →
      Activity.InStep (BothOrNeither P) (credential.passes q) (credential.passes q'))
    (h : next.TreatsAlike P) : Stage.TreatsAlike Q (credential.inFront next) := by
  intro ctx q q' hq
  refine (hcredential q q' hq).bind fun x y hxy => ?_
  cases hxy with
  | ok hsigned => exact h ctx _ _ hsigned
  | error e => exact .done (.error (.same e))

lemma RequestLog.treatsAlike_stage (o : RequestLogOptions) (log : Logger)
    (hP : ∀ q q', P q q' → q.Alike q') (h : next.TreatsAlike P) :
    Stage.TreatsAlike P (RequestLog.stage o next log) := by
  intro ctx q q' hq
  simp only [RequestLog.stage, (hP q q' hq).subject_eq ctx]
  refine .bind_left fun _ => .act .now fun began => (h ctx q q' hq).bind fun x y hxy => ?_
  refine .act .now fun ended => ?_
  rw [hxy.outcomeLevel_eq, hxy.closingText_eq]
  exact .bind_left fun _ => .done hxy

end Stages

/-! ## Tries -/

namespace Retry

variable {o : RetryOptions} {next : Stage} {log : Logger} {ctx : Context} {r r' q q' : Request}
  {u u' : Url}

/-- What becomes of a call does not depend on its request. -/
lemma inStep_conclude (n : ℕ) {x y : Except CancelReason (Option Outcome)}
    (h : BothOrNeither (Option.Rel Outcome.Alike) x y) :
    Activity.InStep Outcome.Alike (conclude o ctx n x) (conclude o ctx n y) := by
  cases h with
  | error reason => exact .done (.error (.same _))
  | ok hxy =>
    have hanswer : ∀ {a b : Outcome}, Outcome.Alike a b →
        Activity.InStep Outcome.Alike (settle o ctx n (some a)) (settle o ctx n (some b)) := by
      intro a b hab
      cases hab with
      | ok hab => exact .done (.ok hab)
      | error hef =>
        refine .act (.reason ctx) ?_
        rintro (_ | reason)
        · refine .done (.error ?_)
          rw [hef.isCancellation_eq]
          split
          · exact .same _
          · exact hef
        · exact .done (.error (.same _))
    cases hxy with
    | none => exact hanswer (.error (.same (timedOut o n)))
    | some hab => exact hanswer hab

/-- The copies of two requests. -/
lemma inStep_renew (n : ℕ) (h : r.Alike r') :
    Activity.InStep (CopiesOf r.url r'.url) (renew n r) (renew n r') := by
  rw [renew, renew, h.generatedId]
  split
  · refine .act .newId fun id => .done ⟨?_, rfl, rfl⟩
    exact { h.insert clientRequestIdHeader (Utf8.encode id) with generatedId := rfl }
  · exact .done ⟨h, rfl, rfl⟩

lemma inStep_proceed (n : ℕ) (hnext : next.TreatsAlike (TriesOf u u')) (h : CopiesOf u u' q q') :
    Activity.InStep Outcome.Alike (proceed o next ctx n q) (proceed o next ctx n q') := by
  refine .act .now fun now => ?_
  rw [tryFrom, tryFrom]
  refine .bind_left fun limit => .act (.branch ctx.token) fun token => ?_
  set deadline := earliest ctx.deadline limit
  have htries : TriesOf u u'
      { q with url := q.url.setServerTimeout (Instant.since deadline now) }
      { q' with url := q'.url.setServerTimeout (Instant.since deadline now) } :=
    ⟨h.alike.setServerTimeout _, _, by rw [h.url], by rw [h.url']⟩
  have hcall := (hnext (ctx.deriveFor token n deadline) _ _ htries).timeoutAt deadline
  exact (hcall.untilDone ctx).bind fun x y hxy => inStep_conclude n hxy

lemma inStep_attempt (n : ℕ) (hnext : next.TreatsAlike (TriesOf r.url r'.url)) (h : r.Alike r') :
    Activity.InStep Outcome.Alike (attempt o next ctx n r) (attempt o next ctx n r') := by
  rw [attempt_eq, attempt_eq]
  refine .rewind h.body n ?_ fun e => .done (.error (.same e))
  exact (inStep_renew n h).bind fun q q' hq => inStep_proceed n hnext hq

/-- **The loop over tries does the same with both requests.** -/
theorem inStep_tries (hnext : next.TreatsAlike (TriesOf r.url r'.url)) (h : r.Alike r')
    (left n : ℕ) :
    Activity.InStep Outcome.Alike (tries o log next ctx r left n)
      (tries o log next ctx r' left n) := by
  have hdone : ∀ e : Error, Activity.InStep Outcome.Alike (.done (.error e)) (.done (.error e)) :=
    fun e => .done (.error (.same e))
  induction left generalizing n with
  | zero =>
    rw [tries_zero, tries_zero]
    refine .act (.reason ctx) ?_
    rintro (_ | reason)
    · refine (inStep_attempt n hnext h).bind fun x y hxy => ?_
      rw [hxy.cause?_eq]
      cases cause? x with
      | none => exact .done hxy
      | some cause => exact .bind_left fun _ => .done hxy
    · exact hdone _
  | succ left ih =>
    rw [tries_succ, tries_succ]
    refine .act (.reason ctx) ?_
    rintro (_ | reason)
    · refine (inStep_attempt n hnext h).bind fun x y hxy => ?_
      rw [hxy.cause?_eq]
      cases cause? x with
      | none => exact .done hxy
      | some cause =>
        refine .bind_left fun pauseEnd => ?_
        cases pauseEnd with
        | error reason => exact hdone _
        | ok _ => exact ih (n + 1)
    · exact hdone _

lemma treatsAlike_stage (o : RetryOptions) (log : Logger)
    (hnext : next.TreatsAlike (TriesOf u u')) :
    (Retry.stage o next log).TreatsAlike (CopiesOf u u') := by
  intro ctx q q' hq
  rw [← hq.url, ← hq.url'] at hnext
  exact inStep_tries hnext hq.alike _ 1

end Retry

/-! ## Credentials -/

/-- The credentials of default pipelines look at the signatures of a URL for the signature of the
account only: they sign alike what is alike, and leave the URL as it is. -/
lemma Signer.inStep_passes (signer : Signer) {u u' : Url} {q q' : Request}
    (h : Retry.TriesOf u u' q q') :
    Activity.InStep (BothOrNeither (Retry.TriesOf u u')) (signer.credential.passes q)
      (signer.credential.passes q') := by
  cases signer with
  | anonymous => exact .done (.ok h)
  | sharedKey account epoch =>
    refine .act .now fun now => .act .accountKey fun key => .done ?_
    rw [Signature.signAt_eq, Signature.signAt_eq]
    split
    · refine .ok ⟨⟨h.alike.method, h.alike.url, h.alike.body, h.alike.generatedId, ?_⟩, h.urls⟩
      intro name hname
      rw [Signature.signed, Headers.values_insert_of_ne _ _ hname, Signature.signed,
        Headers.values_insert_of_ne _ _ hname]
      exact (h.alike.insert Signature.dateHeader _).headers name hname
    · exact .error _

/-! ## Pipelines -/

/-- **Signatures do not flow into the log.**  Two requests that differ in the values of signatures
in their URLs only are sent through a default pipeline, in the same world and for the same caller.
If what the credential makes of their tries is alike, and if the sender does the same with that
(`Received`), then the same is written, entry by entry, whatever the log wants and wherever it goes,
and what comes of the requests differs in what a response keeps of its request only. -/
theorem pipeline_signatures_hidden (credential : Credential) (o : PipelineOptions)
    (collector : Collector) (net : Network) (w₀ w₁ : World) (p : Pipeline)
    (hp : (Pipeline.new (some credential) o collector net).run w₀ = (some (.ok p), w₁))
    (r r' : Request) (hsame : r.SameButSignatures r') (Received : Request → Request → Prop)
    (hreceived : ∀ q q', Received q q' → q.Alike q')
    (hcredential : ∀ q q', Retry.TriesOf r.url r'.url q q' →
      Activity.InStep (BothOrNeither Received) (credential.passes q) (credential.passes q'))
    (hsender : (p.sender.create endOfPipeline p.log).TreatsAlike Received)
    (ctx : Context) (w : World) :
    (p.send ctx r').written w = (p.send ctx r).written w ∧
      (p.send ctx r').entries w = (p.send ctx r).entries w ∧
      Option.Rel Outcome.Alike ((p.send ctx r).run w).1 ((p.send ctx r').run w).1 := by
  have hchain : Activity.InStep Outcome.Alike (p.send ctx r) (p.send ctx r') := by
    obtain ⟨sender, own, rfl⟩ := Pipeline.eq_onto_of_new hp
    rw [Pipeline.send_onto, Pipeline.send_onto]
    have hlog := RequestLog.treatsAlike_stage o.requestLog ⟨o.sink, collector⟩ hreceived hsender
    have hsigned := Credential.treatsAlike_inFront hcredential hlog
    have htries := Retry.treatsAlike_stage o.retry.withDefaults ⟨o.sink, collector⟩ hsigned
    have hall := Telemetry.treatsAlike_stage (Utf8.encode (Telemetry.agentText o.telemetry))
      (RequestId.treatsAlike_stage htries)
    exact hall ctx r r' ⟨hsame.alike, rfl, rfl⟩
  have hwritten : (p.send ctx r').written w = (p.send ctx r).written w := hchain.written w
  refine ⟨hwritten, ?_, (hchain.run (.refl w)).1⟩
  rw [entries_eq, entries_eq, hwritten]

/-- A policy at the end that has no time for any request. -/
def busySender : Policy := ⟨"busy", fun _ _ _ r => .done (.ok (.new Retry.busyStatus r))⟩

lemma busySender_treatsAlike (P : Request → Request → Prop) (next : Stage) (log : Logger) :
    Stage.TreatsAlike P (busySender.create next log) :=
  fun _ _ _ _ => .done (.ok ⟨_, rfl⟩)

/-- Options for two tries over that sender, with a log of everything. -/
def busyOptions : PipelineOptions :=
  { bareOptions with log := some (.custom fun _ => true), sender := some busySender }

/-- The pipeline of an account with these options. -/
def busyPipeline (account : String) (epoch : ℤ) : Pipeline :=
  (defaultBuilder (Utf8.encode Telemetry.platform) (Credential.sharedKey account epoch)
    busyOptions.retry busyOptions.requestLog).onto busySender none ⟨.custom fun _ => true, none⟩

/-- A request with two signatures among the parameters of its URL. -/
def signedRequest (first second : String) : Request :=
  .new "GET" { (default : Url) with
    scheme := "https", path := "/q", query := some ("sv=1&SIG=" ++ first ++ "&sig=" ++ second) }

lemma signedRequest_sameButSignatures :
    (signedRequest "a=b%20" "c").SameButSignatures (signedRequest "" "secret") where
  rest := rfl
  url :=
    { rest := rfl
      query := by
        have hfirst : Query.IsSignatureName "SIG".toList := rfl
        have hsecond : Query.IsSignatureName "sig".toList := rfl
        exact .some (.cons (.same _) (.cons (.signature hfirst "a=b%20".toList "".toList)
          (.cons (.signature hsecond "c".toList "secret".toList) .nil))) }

/-- Two such requests, with signatures that hold signs, escapes or nothing: the entries are the
same, and the URL in the first one shows none of it. -/
theorem pipeline_signatures_hidden_busyPipeline :
    ∃ v, (Pipeline.new (some (Signer.sharedKey "myaccount" 1714979289).credential) busyOptions none
        fun _ _ => .never).run (.start []) =
          (some (.ok (busyPipeline "myaccount" 1714979289)), v) ∧
      (signedRequest "a=b%20" "c").SameButSignatures (signedRequest "" "secret") ∧
      ((busyPipeline "myaccount" 1714979289).send (.ofToken ⟨[0]⟩)
        (signedRequest "" "secret")).entries (.start []) =
          ((busyPipeline "myaccount" 1714979289).send (.ofToken ⟨[0]⟩)
            (signedRequest "a=b%20" "c")).entries (.start []) ∧
      (((busyPipeline "myaccount" 1714979289).send (.ofToken ⟨[0]⟩)
        (signedRequest "" "secret")).entries (.start [])).length = 6 ∧
      (((busyPipeline "myaccount" 1714979289).send (.ofToken ⟨[0]⟩)
        (signedRequest "" "secret")).entries (.start [])).head? =
          some (.info, "==> OUTGOING REQUEST (try=1) GET https:/q?sv=1&SIG=REDACTED&sig=REDACTED&" ++
            "timeout=4 client-request-id=00000000-0000-4000-8000-000000000001") := by
  have hagent : Headers.value? (Telemetry.agentText busyOptions.telemetry) =
      some (Utf8.encode Telemetry.platform) := by decide +kernel
  obtain ⟨v, hp⟩ := @Pipeline.run_new_of_sender busyOptions
    (Signer.sharedKey "myaccount" 1714979289).credential busySender
    (Utf8.encode Telemetry.platform) hagent rfl none (fun _ _ => .never) (.start [])
  have hsame := signedRequest_sameButSignatures
  obtain ⟨-, hentries, -⟩ := pipeline_signatures_hidden _ _ _ _ _ _ _ hp _ _ hsame
    (Retry.TriesOf (signedRequest "a=b%20" "c").url (signedRequest "" "secret").url)
    (fun _ _ h => h.alike) (fun _ _ h => (Signer.sharedKey _ _).inStep_passes h)
    (busySender_treatsAlike _ _ _) (.ofToken ⟨[0]⟩) (.start [])
  refine ⟨v, hp, hsame, hentries, ?_, ?_⟩
  · rw [busyPipeline, Credential.sharedKey_eq _ (by decide +kernel)]
    decide +kernel
  · rw [busyPipeline, Credential.sharedKey_eq _ (by decide +kernel)]
    decide +kernel

end QueueClient
