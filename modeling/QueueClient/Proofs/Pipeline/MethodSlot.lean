/-
# A policy in the slot

The slot for the policy of a single call lies below the signer.  What is signed is therefore the
request that enters the slot, and that is as it would be on the wire without the policy
(`OnWire`).  An edit comes afterwards and leaves the signature as it was; whether the signature is
that of the received request as well depends on the edit alone (`EditOnWire.own`).  An edit that
touches no covered header, nor method, URL and body, keeps it valid (`Signature.IsAlike`); one that
sets a service header does not (`exists_call_signature_ne`).

A policy may ask things before it forwards, and do things afterwards; what counts is that it signs
nothing and does not let time pass in between (`Forwards`).
-/
import QueueClient.Pipeline.Script
import QueueClient.Proofs.Pipeline.Wire

namespace QueueClient

open Activity

/-! ## Policies that edit and forward -/

/-- What is done with a request is to forward an edit of it, or to end without that. -/
inductive Forwards (next : Stage) (c : Context) (E : Request → Prop) : Activity Outcome → Prop where
  /-- It is forwarded; what comes back may be looked at. -/
  | pass {q : Request} (edit : E q) (f : Outcome → Activity Outcome) (quiet : ∀ x, (f x).Quiet) :
    Forwards next c E ((next c q).bind f)
  /-- It is not forwarded. -/
  | stop (x : Outcome) : Forwards next c E (.done x)
  /-- Something is asked or noted before; the key is not changed. -/
  | act {a : Act} {k : a.Answer → Activity Outcome} (quiet : a.IsQuiet)
    (key : ∀ w : World, (w.perform a).2.accountKey = w.accountKey)
    (rest : ∀ x, Forwards next c E (k x)) : Forwards next c E (.act a k)

/-- A policy that forwards edits, as a relation between what it gets and what it forwards says. -/
def Policy.Edits (method : Policy) (E : Context → Request → Request → Prop) : Prop :=
  ∀ next log c q, Forwards next c (E c q) (method.create next log c q)

namespace Forwards

variable {next : Stage} {c : Context} {E : Request → Prop} {p : Activity Outcome} {v : World}
  {P : Context → Request → World → Prop}

lemma now {q : Request} (h : E q) : Forwards next c E (next c q) := by
  have hpass : Forwards next c E ((next c q).bind .done) := .pass h .done fun _ => trivial
  rwa [bind_done_right] at hpass

/-- Forwarding is safe if every edit is safe to forward, at the same time and with the same key. -/
lemma safe (h : Forwards next c E p)
    (hnext : ∀ q u, E q → u.now = v.now → u.accountKey = v.accountKey →
      (next c q).Safe (Act.CallsAre P) (fun _ _ => True) u) :
    p.Safe (Act.CallsAre P) (fun _ _ => True) v := by
  induction h generalizing v with
  | pass edit f quiet =>
    exact (hnext _ v edit rfl rfl).bind fun x u _ => Safe.of_quiet (quiet x) u
  | stop x => trivial
  | act quiet key rest ih =>
    refine ⟨quiet.callsAre, ih _ fun q u hq hnow hkey => hnext q u hq ?_ ?_⟩
    · rw [hnow, World.perform_now]
    · rw [hkey, key]

end Forwards

/-- Setting a header is an edit. -/
lemma Policy.settingHeader_edits (name value : String) :
    (Policy.settingHeader name value).Edits fun _ q q' => q.setHeader name value = .ok q' := by
  intro next log c q
  simp only [Policy.settingHeader]
  split
  · rename_i q' h
    exact .now h
  · exact .stop _

/-- Setting the query is one. -/
lemma Policy.settingQuery_edits (query : String) :
    (Policy.settingQuery query).Edits fun _ q q' =>
      q' = { q with url := q.url.setQuery query.toList } :=
  fun _ _ _ _ => .now rfl

/-! ## What is received -/

/-- The request `q` is received now with the context `c`; it is an edit of `q₁`, which was signed as
it should be. -/
structure EditOnWire (o : PipelineOptions) (account : String) (epoch : ℤ)
    (E : Context → Request → Request → Prop) (ctx : Context) (r : Request) (now : ℕ)
    (key : List UInt8) (c : Context) (q₁ q : Request) : Prop where
  edit : E c q₁ q
  entered : OnWire o (.sharedKey account epoch) ctx r now key c q₁
  /-- If the edit leaves the signature alone, then it is that of the received request exactly when
  the edit does not change what the signature should be. -/
  own : q.headers.values Signature.authorizationHeader =
      q₁.headers.values Signature.authorizationHeader →
    (q.headers.values Signature.authorizationHeader =
        [Utf8.encode (Signature.authorizationText account key q)] ↔
      Signature.signature account key q = Signature.signature account key q₁)

lemma editOnWire {o : PipelineOptions} {account : String} {epoch : ℤ}
    {E : Context → Request → Request → Prop} {ctx c : Context} {r q₁ q : Request} {now : ℕ}
    {key : List UInt8} (hentered : OnWire o (.sharedKey account epoch) ctx r now key c q₁)
    (hedit : E c q₁ q) : EditOnWire o account epoch E ctx r now key c q₁ q := by
  refine ⟨hedit, hentered, fun hkept => ?_⟩
  have hstamp : q₁.headers.values Signature.authorizationHeader =
      [Utf8.encode (Signature.authorizationText account key q₁)] := hentered.stamps.2.2
  rw [hkept, hstamp, List.singleton_inj, Utf8.encode_inj, Signature.authorizationText_inj]
  exact eq_comm

lemma Pipeline.safe_sendWith_edits {account : String} {epoch : ℤ} {o : PipelineOptions}
    {collector : Collector} {net : Network} {w₀ w₁ : World} {p : Pipeline}
    (hp : (Pipeline.new (some (Signer.sharedKey account epoch).credential) o collector net).run w₀ =
      (some (.ok p), w₁))
    {method : Policy} {E : Context → Request → Request → Prop} (hmethod : method.Edits E)
    (receiver : Callee) (ctx : Context) (r : Request) (w : World) :
    ((p.receiving receiver).sendWith method ctx r).Safe
      (Act.CallsAre fun c q v =>
        ∃ q₁, EditOnWire o account epoch E ctx r v.now v.accountKey c q₁ q)
      (fun _ _ => True) w := by
  refine Pipeline.safe_sendWith hp fun c q₁ v hentered => ?_
  refine (hmethod _ _ c q₁).safe fun q u hedit hnow hkey => safe_requestLog fun _ => Safe.call ?_
  -- no time has passed since the request was signed, and the key is the same
  rw [← hnow, ← hkey] at hentered
  exact ⟨q₁, editOnWire hentered hedit⟩

/-- Every call among the events is of an edit of a request that was signed as it should be, with the
key that was stored last before it. -/
def AllEditOnWire (o : PipelineOptions) (account : String) (epoch : ℤ)
    (E : Context → Request → Request → Prop) (ctx : Context) (r : Request) (events : List Event)
    (key : List UInt8) : Prop :=
  ∀ before c q v after, events = before ++ .acts (.arrive c q) v :: after →
    ∃ q₁, EditOnWire o account epoch E ctx r v.now (keyAfter before key) c q₁ q

/-- **A signature covers what enters the slot.**  Whatever policy is in the slot of a call, every
request that the sender of a default pipeline receives is the policy's edit of one that was signed
as it should be; and if the edit leaves the signature alone, the received request carries its own
signature exactly when the edit does not change what that is. -/
theorem pipeline_method_onWire (account : String) (epoch : ℤ) (o : PipelineOptions)
    (collector : Collector) (net : Network) (w₀ w₁ : World) (p : Pipeline)
    (hp : (Pipeline.new (some (Signer.sharedKey account epoch).credential) o collector net).run w₀ =
      (some (.ok p), w₁))
    (method : Policy) (E : Context → Request → Request → Prop) (hmethod : method.Edits E)
    (receiver : Callee) (ctx : Context) (r : Request) (w : World) :
    AllEditOnWire o account epoch E ctx r
      (((p.receiving receiver).sendWith method ctx r).trace w) w.accountKey := by
  intro before c q v after htrace
  exact Safe.at_call
    (P := fun c q now key => ∃ q₁, EditOnWire o account epoch E ctx r now key c q₁ q)
    (Pipeline.safe_sendWith_edits hp hmethod receiver ctx r w) htrace

/-- A request for the messages of a queue, with an id of the caller's. -/
def messagesRequest : Request :=
  { method := "GET"
    url := ⟨"https", "", "", some (.domain "myaccount.queue.example.net"), none,
      "/orders/messages", none, none⟩
    headers := ⟨[(clientRequestIdHeader, Utf8.encode "id-1")]⟩
    body := .empty
    generatedId := false }

/-- A world with the key of an account. -/
def keyedWorld : World := { World.start [] with accountKey := Utf8.encode "secret-key" }

/-- Sending that request with a header set in the slot. -/
def sendPeeking : Activity Outcome :=
  ((barePipeline "myaccount" 1714979289).receiving accepting).sendWith
    (Policy.settingHeader "x-ms-peekonly" "true") (.ofToken ⟨[0]⟩) messagesRequest

/-- What is received when it is sent. -/
theorem pipeline_method_onWire_sendPeeking :
    ∃ v, (Pipeline.new (some (Signer.sharedKey "myaccount" 1714979289).credential) bareOptions none
        fun _ _ => .never).run keyedWorld =
          (some (.ok (barePipeline "myaccount" 1714979289)), v) ∧
      (Policy.settingHeader "x-ms-peekonly" "true").Edits
        (fun _ q q' => q.setHeader "x-ms-peekonly" "true" = .ok q') ∧
      AllEditOnWire bareOptions "myaccount" 1714979289
        (fun _ q q' => q.setHeader "x-ms-peekonly" "true" = .ok q') (.ofToken ⟨[0]⟩)
        messagesRequest (sendPeeking.trace keyedWorld) (Utf8.encode "secret-key") := by
  obtain ⟨v, hp⟩ := run_new_barePipeline "myaccount" 1714979289 keyedWorld
  have hedits := Policy.settingHeader_edits "x-ms-peekonly" "true"
  exact ⟨v, hp, hedits, pipeline_method_onWire _ _ _ _ _ _ _ _ hp _ _ hedits _ _ _ _⟩

/-! ## A service header that is set in the slot -/

/-- The request with the header. -/
def peeking (r : Request) : Request :=
  { r with headers := r.headers.insert "x-ms-peekonly" (Utf8.encode "true") }

lemma eq_peeking {q₁ q : Request} (h : q₁.setHeader "x-ms-peekonly" "true" = .ok q) :
    q = peeking q₁ := by
  have hname : Headers.name? "x-ms-peekonly" = some "x-ms-peekonly" := by decide +kernel
  have hvalue : Headers.value? "true" = some (Utf8.encode "true") := by decide +kernel
  simp only [Request.setHeader, Headers.set, hname, hvalue, Except.map, Except.ok.injEq] at h
  exact h.symm

/-- All of the request that is signed at the beginning. -/
def messagesEntered : Request :=
  { messagesRequest with
    url := messagesRequest.url.setServerTimeout (.ofSecs 3)
    headers := ⟨[(clientRequestIdHeader, Utf8.encode "id-1"),
      (Signature.dateHeader, Utf8.encode "Mon, 06 May 2024 07:08:09 GMT")]⟩ }

lemma stringToSign_messagesEntered :
    Signature.stringToSign "myaccount" messagesEntered =
      "GET\n\n\n\n\n\n\n\n\n\n\n\nx-ms-client-request-id:id-1\n" ++
        "x-ms-date:Mon, 06 May 2024 07:08:09 GMT\n/myaccount/orders/messages\ntimeout:4" := by
  rw [Signature.stringToSign, Signature.serviceHeaders,
    Signature.serviceNames_eq rfl (by decide +kernel)]
  decide +kernel

lemma stringToSign_peeking_messagesEntered :
    Signature.stringToSign "myaccount" (peeking messagesEntered) =
      "GET\n\n\n\n\n\n\n\n\n\n\n\nx-ms-client-request-id:id-1\n" ++
        "x-ms-date:Mon, 06 May 2024 07:08:09 GMT\nx-ms-peekonly:true\n" ++
          "/myaccount/orders/messages\ntimeout:4" := by
  rw [Signature.stringToSign, Signature.serviceHeaders,
    Signature.serviceNames_eq rfl (by decide +kernel)]
  decide +kernel

lemma signature_peeking_ne :
    Signature.signature "myaccount" (Utf8.encode "secret-key") (peeking messagesEntered) ≠
      Signature.signature "myaccount" (Utf8.encode "secret-key") messagesEntered := by
  rw [Signature.signature, stringToSign_peeking_messagesEntered, Signature.signature,
    stringToSign_messagesEntered]
  decide +kernel

/-- What is signed at the beginning is told by what the request is on the wire. -/
lemma isAlike_messagesEntered {c : Context} {q : Request} {key : List UInt8}
    (h : OnWire bareOptions (.sharedKey "myaccount" 1714979289) (.ofToken ⟨[0]⟩) messagesRequest 0
      key c q) : Signature.IsAlike q messagesEntered where
  method := h.method
  url := h.url
  body := h.body
  headers := fun name hcovered => by
    by_cases hdate : name = Signature.dateHeader
    · rw [hdate]
      exact h.stamps.1.trans (by decide +kernel)
    by_cases hid : name = clientRequestIdHeader
    · rw [hid]
      exact (h.id_kept ⟨rfl, rfl⟩).trans (by decide +kernel)
    -- what else was set on the way is not covered
    · have hagent : name ≠ Telemetry.header := fun heq => by
        rw [heq] at hcovered
        exact absurd hcovered (by decide)
      have hauth : name ≠ Signature.authorizationHeader := fun heq => by
        rw [heq] at hcovered
        exact absurd hcovered (by decide)
      have hother : name ∉ (Signer.sharedKey "myaccount" 1714979289).headerNames := by
        simp only [Signer.headerNames, List.mem_cons, List.not_mem_nil, or_false, not_or]
        exact ⟨hagent, hid, hdate, hauth⟩
      rw [h.others name hother]
      simp [messagesRequest, messagesEntered, Headers.values, Ne.symm hid, Ne.symm hdate]

/-- The request reaches the sender at once. -/
lemma calls_sendPeeking :
    (sendPeeking.calls keyedWorld).map (fun call => (call.world.now, call.world.accountKey)) =
      [(0, Utf8.encode "secret-key")] := by
  rw [sendPeeking, barePipeline, Credential.sharedKey_eq _ (by decide +kernel)]
  decide +kernel

/-- **A service header that is set in the slot is not covered by the signature.**  In a pipeline
like any other, a request is received with a signature that is not its own. -/
theorem exists_call_signature_ne :
    ∃ v, (Pipeline.new (some (Signer.sharedKey "myaccount" 1714979289).credential) bareOptions none
        fun _ _ => .never).run keyedWorld =
          (some (.ok (barePipeline "myaccount" 1714979289)), v) ∧
      ∃ call ∈ sendPeeking.calls keyedWorld,
        call.request.headers.values Signature.authorizationHeader ≠
          [Utf8.encode (Signature.authorizationText "myaccount" call.world.accountKey
            call.request)] := by
  obtain ⟨v, hp⟩ := run_new_barePipeline "myaccount" 1714979289 keyedWorld
  obtain ⟨call, hcalls, hworld⟩ := List.map_eq_singleton_iff.mp calls_sendPeeking
  obtain ⟨hnow, hkey⟩ := Prod.mk.inj hworld
  have hmem : call ∈ sendPeeking.calls keyedWorld := hcalls ▸ List.mem_singleton_self call
  obtain ⟨q₁, h⟩ := (Pipeline.safe_sendWith_edits hp
    (Policy.settingHeader_edits "x-ms-peekonly" "true") accepting (.ofToken ⟨[0]⟩) messagesRequest
    keyedWorld).of_mem_calls hmem
  rw [hnow, hkey] at h
  have hedited : call.request = peeking q₁ := eq_peeking h.edit
  have hkept : call.request.headers.values Signature.authorizationHeader =
      q₁.headers.values Signature.authorizationHeader := by
    rw [hedited]
    exact Headers.values_insert_of_ne _ _ (by decide)
  have halike : Signature.IsAlike q₁ messagesEntered := isAlike_messagesEntered h.entered
  refine ⟨v, hp, call, hmem, fun hown => signature_peeking_ne ?_⟩
  rw [hkey] at hown
  calc Signature.signature "myaccount" (Utf8.encode "secret-key") (peeking messagesEntered)
      = Signature.signature "myaccount" (Utf8.encode "secret-key") call.request := by
        rw [hedited]
        exact ((halike.insert _ _).signature_eq _ _).symm
    _ = Signature.signature "myaccount" (Utf8.encode "secret-key") q₁ := (h.own hkept).mp hown
    _ = Signature.signature "myaccount" (Utf8.encode "secret-key") messagesEntered :=
        halike.signature_eq _ _

end QueueClient
