/-
# The ids on the wire

Two stages of a default pipeline see to the ids of requests.  The one makes up an id for a request
that has none and marks it; the other replaces the id of a marked request in every try but the
first.  Followed down the chain, each stage is honest about ids if the next one is, for every
answer that it may be given (`Retry.honest_tries`); so nothing depends on what other calls do
meanwhile, and calls that go on side by side are told apart by their ids.
-/
import QueueClient.Proofs.Pipeline.LogEntries
import QueueClient.Proofs.Stage.Ids

namespace QueueClient

open Activity

variable {o : RetryOptions} {log : Logger} {next : Stage} {ctx c : Context} {r q q' : Request}
  {held more : Set String} {n : ℕ}

/-! ## Requests on their way -/

namespace Request

/-- In try number `n`, the request `q` has a name under which `r` may be sent. -/
def IsNamedFor (r : Request) (held : Set String) (n : ℕ) (q : Request) : Prop :=
  ∀ c : Context, c.attempt = n → (Act.arrive c q).IsHonest r held

lemma IsNamedFor.congr (h : r.IsNamedFor held n q) (hq : q'.idValues = q.idValues)
    (hsub : held ⊆ more) : r.IsNamedFor more n q' := by
  intro c hc
  cases hkeeps : r.keepsId c with
  | true =>
    rw [Act.isHonest_arrive_of_keepsId hkeeps, hq]
    exact (Act.isHonest_arrive_of_keepsId hkeeps).mp (h c hc)
  | false =>
    obtain ⟨id, hid, hshows⟩ := (Act.isHonest_arrive_of_not_keepsId hkeeps).mp (h c hc)
    exact (Act.isHonest_arrive_of_not_keepsId hkeeps).mpr ⟨id, hsub hid, hq.trans hshows⟩

/-- What tries start from: a marked request loses its name in later tries, and the name of another
one is what the caller has given it. -/
structure IsBase (r q : Request) : Prop where
  kept : q.generatedId = false → ∀ held n, r.IsNamedFor held n q
  replaced : q.generatedId = true → ∀ c : Context, 1 < c.attempt → r.keepsId c = false

lemma keepsId_of_named (h : r.headers.contains clientRequestIdHeader = true)
    (hc : r.generatedId = false ∨ c.attempt = 1) : r.keepsId c = true := by
  rcases hc with hc | hc <;> simp [keepsId, h, hc]

lemma keepsId_of_unnamed (h : r.headers.contains clientRequestIdHeader = false) :
    r.keepsId c = false := by
  rw [keepsId, h, Bool.false_and]

/-- The user agent is no name. -/
lemma idValues_withAgent (agent : HeaderValue) (r : Request) :
    (withAgent agent r).idValues = r.idValues :=
  Headers.values_insert_of_ne _ _ (by decide)

lemma isNamedFor_withAgent {agent : HeaderValue}
    (h : ∀ c : Context, c.attempt = n → r.keepsId c = true) :
    r.IsNamedFor held n (withAgent agent r) := fun c hc =>
  (Act.isHonest_arrive_of_keepsId (h c hc)).mpr (idValues_withAgent agent r)

lemma isBase_withAgent {agent : HeaderValue}
    (h : r.headers.contains clientRequestIdHeader = true) : r.IsBase (withAgent agent r) where
  kept hmade _ _ := isNamedFor_withAgent fun _ _ => keepsId_of_named h (.inl hmade)
  replaced hmade c hc := by
    have hmark : r.generatedId = true := hmade
    simp [keepsId, hmark, hc.ne']

lemma isBase_mark {id : String} (h : r.headers.contains clientRequestIdHeader = false) :
    r.IsBase (RequestId.mark q id) where
  kept hmade := nomatch hmade
  replaced _ _ _ := keepsId_of_unnamed h

/-- An id that is held will do where no name is kept. -/
lemma isNamedFor_insert {id : String} (h : ∀ c : Context, c.attempt = n → r.keepsId c = false)
    (hq : q.ShowsId id) : r.IsNamedFor (insert id held) n q := fun c hc =>
  (Act.isHonest_arrive_of_not_keepsId (h c hc)).mpr ⟨id, Set.mem_insert _ _, hq⟩

end Request

/-- A stage that is honest about the requests that it is given honestly. -/
def Stage.IsHonest (r : Request) (n : ℕ) (next : Stage) : Prop :=
  ∀ c q held, c.attempt = n → r.IsNamedFor held n q → (next c q).HonestAbout r held

/-! ## The last stages -/

lemma Callee.honest (callee : Callee) (r : Request) (n : ℕ) :
    Stage.IsHonest r n callee.stage := fun c q _ hc hq =>
  ⟨hq c hc, fun k _ => Honest.about_of_quiet (callee.quiet k c q)⟩

lemma RequestLog.honest_stage {options : RequestLogOptions} (h : Stage.IsHonest r n next) :
    Stage.IsHonest r n (RequestLog.stage options next log) := by
  intro c q held hc hq
  refine (Honest.of_quiet (Quiet.log _ _ _) (Yields.of_true _) r held).bind fun _ more hmore => ?_
  refine ⟨trivial, fun began _ => ?_⟩
  refine (h c q more hc (hq.congr rfl hmore.1)).bind fun outcome s _ => ?_
  refine ⟨trivial, fun ended _ => ?_⟩
  exact (Honest.about_of_quiet (Quiet.log _ _ _)).bind fun _ _ _ => trivial

/-- Signing leaves the names of requests alone and does not call the last stage. -/
structure Credential.KeepsIds (credential : Credential) : Prop where
  quiet : ∀ q, (credential.sign q).Quiet
  kept : ∀ q, (credential.sign q).Yields fun x => ∀ q', x = .ok q' → q'.idValues = q.idValues

lemma Signer.keepsIds (signer : Signer) : signer.credential.KeepsIds := by
  cases signer with
  | anonymous => exact ⟨fun _ => trivial, fun q q' h => by rw [← Except.ok.inj h]⟩
  | sharedKey account epoch =>
    refine ⟨fun q => ⟨trivial, fun _ => ⟨trivial, fun _ => trivial⟩⟩,
      fun q _ _ _ _ q' h => ?_⟩
    exact (Signature.signAt_spec h).others _ (by decide) (by decide)

namespace Credential.KeepsIds

variable {credential : Credential}

lemma honest_inFront (h : credential.KeepsIds) (hnext : Stage.IsHonest r n next) :
    Stage.IsHonest r n (credential.inFront next) := by
  intro c q held hc hq
  have hpasses : (credential.passes q).Honest r
      (fun x s => held ⊆ s ∧ ∀ q', x = .ok q' → q'.idValues = q.idValues) held := by
    rw [Credential.passes]
    split
    · exact ⟨subset_rfl, fun q' hq' => by rw [Except.ok.inj hq']⟩
    · exact Honest.of_quiet (h.quiet q) (h.kept q) r held
  refine hpasses.bind fun x s hx => ?_
  cases x with
  | error e => trivial
  | ok q' => exact hnext c q' s hc (hq.congr (hx.2 q' rfl) hx.1)

end Credential.KeepsIds

/-! ## Tries -/

namespace Retry

/-- The copy of a try has the name of the request, or a new one. -/
lemma honest_renew (hq : r.IsBase q) (hfirst : n ≤ 1 → r.IsNamedFor held n q) :
    (renew n q).Honest r (fun copy s => r.IsNamedFor s n copy) held := by
  rw [renew]
  split
  · rename_i hnew
    refine ⟨trivial, fun id _ => ?_⟩
    refine Request.isNamedFor_insert (fun c hc => hq.replaced hnew.2 c (hc ▸ hnew.1)) ?_
    exact Headers.values_insert_self _ _ _
  · rename_i hold
    rcases le_or_gt n 1 with hn | hn
    · exact hfirst hn
    · exact hq.kept (by simpa [hn] using hold) held n

lemma honest_settle (answer : Option Outcome) : (settle o ctx n answer).HonestAbout r held := by
  rw [settle]
  split
  · trivial
  · refine ⟨trivial, ?_⟩
    rintro (_ | reason) - <;> trivial

lemma honest_proceed (hnext : Stage.IsHonest r n next) (hq : r.IsNamedFor held n q) :
    (proceed o next ctx n q).HonestAbout r held := by
  refine ⟨trivial, fun now _ => ?_⟩
  refine (Honest.of_quiet (All.expect _) (Yields.of_true _) r held).bind fun limit more hmore => ?_
  refine ⟨trivial, fun token _ => ?_⟩
  refine (Honest.untilDone (Honest.timeoutAt ?_)).bind fun x _ _ => ?_
  · exact hnext _ _ _ rfl (hq.congr rfl hmore.1)
  · cases x with
    | error reason => trivial
    | ok answer => exact honest_settle answer

lemma honest_attempt (hnext : Stage.IsHonest r n next) (hq : r.IsBase q)
    (hfirst : n ≤ 1 → r.IsNamedFor held n q) :
    (attempt o next ctx n q).HonestAbout r held := by
  rw [attempt_eq]
  refine ⟨trivial, fun x hx => ?_⟩
  cases x with
  | error e => trivial
  | ok copy =>
    obtain rfl := hx copy rfl
    exact (honest_renew hq hfirst).bind fun copy s hcopy => honest_proceed hnext hcopy

lemma honest_resume {rest : Activity Outcome} (hrest : ∀ held, rest.HonestAbout r held)
    (x : Except CancelReason Unit) : (resume rest x).HonestAbout r held := by
  cases x with
  | error reason => trivial
  | ok _ => exact hrest held

/-- **Tries are honest about ids**: the first one shows the name that the request has by then, and
later ones replace a made-up name. -/
theorem honest_tries (hnext : ∀ n, Stage.IsHonest r n next) (hq : r.IsBase q) (left : ℕ)
    (hfirst : n ≤ 1 → r.IsNamedFor held n q) (hn : 0 < n) :
    (tries o log next ctx q left n).HonestAbout r held := by
  induction left generalizing n held with
  | zero =>
    rw [tries_zero]
    refine ⟨trivial, ?_⟩
    rintro (_ | reason) -
    · refine (honest_attempt (hnext n) hq hfirst).bind fun outcome s _ => ?_
      split
      · trivial
      · exact (Honest.about_of_quiet (Quiet.log _ _ _)).bind fun _ _ _ => trivial
    · trivial
  | succ left ih =>
    rw [tries_succ]
    refine ⟨trivial, ?_⟩
    rintro (_ | reason) -
    · refine (honest_attempt (hnext n) hq hfirst).bind fun outcome s _ => ?_
      split
      · trivial
      · exact (Honest.about_of_quiet (quiet_pause _ _)).bind fun x _ _ =>
          honest_resume (fun s => ih (fun hle => absurd hle (by omega)) (Nat.succ_pos n)) x
    · trivial

end Retry

/-! ## Default pipelines -/

/-- A default pipeline is honest about the ids of the requests that it sends. -/
lemma Pipeline.honest_send {options : PipelineOptions} {credential : Credential}
    {collector : Collector} {net : Network} {p : Pipeline} {v w : World}
    (hp : (Pipeline.new (some credential) options collector net).run w = (some (.ok p), v))
    (hcredential : credential.KeepsIds) (receiver : Callee) (ctx : Context) (r : Request) :
    ((p.receiving receiver).send ctx r).HonestAbout r ∅ := by
  obtain ⟨sender, own, rfl⟩ := Pipeline.eq_onto_of_new hp
  rw [Pipeline.send_receiving, Telemetry.stage, RequestId.stage, contains_withAgent]
  have hnext : ∀ n, Stage.IsHonest r n (credential.inFront
      (RequestLog.stage options.requestLog receiver.stage ⟨options.sink, collector⟩)) := fun n =>
    hcredential.honest_inFront (RequestLog.honest_stage (receiver.honest r n))
  split
  · rename_i hnamed
    exact Retry.honest_tries hnext (Request.isBase_withAgent hnamed) _
      (fun _ => Request.isNamedFor_withAgent fun c hc => Request.keepsId_of_named hnamed (.inr hc))
      Nat.one_pos
  · rename_i hunnamed
    rw [Bool.not_eq_true] at hunnamed
    refine ⟨trivial, fun id _ => ?_⟩
    refine Retry.honest_tries hnext (Request.isBase_mark hunnamed) _ (fun _ => ?_) Nat.one_pos
    exact Request.isNamedFor_insert (fun c _ => Request.keepsId_of_unnamed hunnamed)
      (Headers.values_insert_self _ _ _)

/-- The call is for a request that came without a name. -/
def isUnnamed (sends : List (Context × Request)) (x : ℕ × Call) : Bool :=
  sends[x.1]?.any fun s => ! s.2.headers.contains clientRequestIdHeader

/-- What a sender is told by the ids of the requests that it receives. -/
structure IdsTold (sends : List (Context × Request)) (calls : List (ℕ × Call)) : Prop where
  /-- It receives nothing but requests that are sent. -/
  sent : ∀ x ∈ calls, x.1 < sends.length
  /-- A request that has a name of the caller's own keeps it in every try. -/
  named : ∀ i ctx r call, sends[i]? = some (ctx, r) → (i, call) ∈ calls →
    r.HasOwnId → call.request.idValues = r.idValues
  /-- The first try keeps any name, also one that the library has made up. -/
  first : ∀ i ctx r call, sends[i]? = some (ctx, r) → (i, call) ∈ calls →
    r.headers.contains clientRequestIdHeader = true → call.context.attempt = 1 →
    call.request.idValues = r.idValues
  /-- A request without a name has one id in every try. -/
  unnamed : ∀ i ctx r call, sends[i]? = some (ctx, r) → (i, call) ∈ calls →
    r.headers.contains clientRequestIdHeader = false → ∃ id, call.request.ShowsId id
  /-- No two tries of requests without a name have the same id. -/
  nodup : ((calls.filter (isUnnamed sends)).map fun x => x.2.request.idValues).Nodup

/-- The request of a number. -/
def sentRequest (sends : List (Context × Request)) (i : ℕ) : Request :=
  (sends[i]?.map Prod.snd).getD default

lemma IdsTold.of_told {sends : List (Context × Request)} {calls : List (ℕ × Call)}
    (hsent : ∀ x ∈ calls, x.1 < sends.length) (h : Crowd.Told (sentRequest sends) calls) :
    IdsTold sends calls := by
  have hown : ∀ {i ctx r}, sends[i]? = some (ctx, r) → sentRequest sends i = r := by
    intro i ctx r hi
    rw [sentRequest, hi, Option.map_some, Option.getD_some]
  have hkeeps : ∀ i ctx r call, sends[i]? = some (ctx, r) → (i, call) ∈ calls →
      r.keepsId call.context = true → call.request.idValues = r.idValues := by
    intro i ctx r call hi hcall hkeeps
    have hkept : Crowd.keeps (sentRequest sends) (i, call) = true := by
      rw [Crowd.keeps, hown hi]
      exact hkeeps
    exact hown hi ▸ h.kept (i, call) hcall hkept
  refine ⟨hsent, fun i ctx r call hi hcall hnamed => ?_,
    fun i ctx r call hi hcall hnamed hfirst => ?_, fun i ctx r call hi hcall hunnamed => ?_, ?_⟩
  · exact hkeeps i ctx r call hi hcall (Request.keepsId_of_named hnamed.1 (.inl hnamed.2))
  · exact hkeeps i ctx r call hi hcall (Request.keepsId_of_named hnamed (.inr hfirst))
  · refine h.made (i, call) hcall ?_
    rw [Crowd.keeps, hown hi]
    exact Request.keepsId_of_unnamed hunnamed
  · refine h.nodup.sublist ((List.monotone_filter_right calls fun x hx => ?_).map _)
    obtain ⟨⟨ctx, r⟩, hi, hr⟩ := (Option.any_eq_true _ _).mp hx
    rw [Bool.not_eq_true'] at hr
    rw [Crowd.keeps, hown hi, Request.keepsId_of_unnamed hr, Bool.not_false]

/-- **Calls are told apart by their ids.**  However many requests are sent through a default
pipeline, one after the other or side by side, and whatever becomes of them: all tries of requests
that came without an id show one id each, no two of them the same, and all tries of requests that
came with an id show what the caller has put there. -/
theorem pipeline_requestIds (options : PipelineOptions) (credential : Credential)
    (hcredential : credential.KeepsIds) (collector : Collector) (net : Network) (w₀ w₁ : World)
    (p : Pipeline)
    (hp : (Pipeline.new (some credential) options collector net).run w₀ = (some (.ok p), w₁))
    (receiver : Callee) (sends : List (Context × Request)) (w : World) (ids : List String)
    (calls : List (ℕ × Call)) (crowd : Crowd Outcome)
    (hturns : Crowd.Turns
      ⟨w, sends.map fun s => (p.receiving receiver).send s.1 s.2, ids⟩ calls crowd) :
    IdsTold sends calls := by
  have hsent := hturns.members.2
  rw [List.length_map] at hsent
  refine .of_told hsent (Crowd.told_of_turns (fun i q hq => ?_) hturns)
  obtain ⟨s, hs, rfl⟩ := Option.map_eq_some_iff.mp ((List.getElem?_map ..).symm.trans hq)
  rw [sentRequest, hs, Option.map_some, Option.getD_some]
  exact Pipeline.honest_send hp hcredential receiver s.1 s.2

/-- A request without a name and one with a name. -/
def twoSends : List (Context × Request) :=
  [(.ofToken ⟨[0]⟩, .new "GET" default),
    (.ofToken ⟨[1]⟩, { Request.new "GET" default with
      headers := Headers.empty.insert clientRequestIdHeader (Utf8.encode "mine") })]

/-- Sending the one and sending the other to a busy service. -/
def twoMembers : List (Activity Outcome) :=
  twoSends.map fun s => ((openPipeline .discard).receiving busy).send s.1 s.2

/-- Both requests are tried twice, the second one after the first. -/
theorem pipeline_requestIds_twoSends :
    ∃ v calls crowd,
      (Pipeline.new (some .anonymous) bareOptions none fun _ _ => .never).run (.start []) =
        (some (.ok (openPipeline .discard)), v) ∧
      Credential.anonymous.KeepsIds ∧
      Crowd.Turns ⟨.start [], twoMembers, []⟩ calls crowd ∧
      calls.length = 4 ∧ IdsTold twoSends calls := by
  obtain ⟨v, hp⟩ := run_new_openPipeline .discard (.start [])
  have hkeeps : Credential.anonymous.KeepsIds := Signer.anonymous.keepsIds
  have hmember : twoMembers[0]? = some (((openPipeline .discard).receiving busy).send
      (.ofToken ⟨[0]⟩) (.new "GET" default)) := rfl
  obtain ⟨q, hfirst, -⟩ := Crowd.turns_run hmember (.start [])
  have hmember' : (twoMembers.set 0 q)[1]? = some (((openPipeline .discard).receiving busy).send
      (.ofToken ⟨[1]⟩) { Request.new "GET" default with
        headers := Headers.empty.insert clientRequestIdHeader (Utf8.encode "mine") }) := rfl
  obtain ⟨q', hsecond, -⟩ := Crowd.turns_run hmember' _
  have hturns := hfirst.trans hsecond
  refine ⟨v, _, _, hp, hkeeps, hturns, by decide +kernel, ?_⟩
  exact pipeline_requestIds bareOptions .anonymous hkeeps none _ _ v (openPipeline .discard) hp
    busy twoSends _ _ _ _ hturns

end QueueClient
