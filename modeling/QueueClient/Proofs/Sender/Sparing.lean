/-
# What sends leave alone

Families of senders are set up and shut down by acts of their own, and no stage of a default pipeline
performs one: as long as the network and the credential know nothing of senders, no send makes a
difference to them (`Stage.SparesFamilies`, `Activity.families_run`).
-/
import QueueClient.Proofs.Pipeline.LogFilter

namespace QueueClient

/-- The act neither sets up a family of senders nor shuts one down. -/
def Act.SparesFamilies : Act → Prop
  | .openFamily | .shutDown _ => False
  | _ => True

lemma World.families_perform {d : Act} (h : d.SparesFamilies) (w : World) :
    (w.perform d).2.families = w.families := by
  cases d <;> first | exact h.elim | rfl

namespace Activity

variable {α : Type} {p : Activity α} {w v : World} {x : Option α}

lemma families_run (hp : p.All Act.SparesFamilies) (h : p.run w = (x, v)) :
    v.families = w.families :=
  hp.kept_of_run (fun w v h => by rw [h.rest]) (fun _ w ha => World.families_perform ha w) h

end Activity

/-- No send of the stage has to do with families. -/
def Stage.SparesFamilies (s : Stage) : Prop := ∀ ctx r, (s ctx r).All Act.SparesFamilies

/-- The network knows nothing of senders. -/
def Network.SparesFamilies (net : Network) : Prop :=
  ∀ r payload, (net r payload).All Act.SparesFamilies

/-- The credential knows nothing of senders. -/
def Credential.SparesFamilies (c : Credential) : Prop := ∀ r, (c.sign r).All Act.SparesFamilies

lemma Credential.sparesFamilies_anonymous : Credential.anonymous.SparesFamilies := fun _ => trivial

lemma Credential.sparesFamilies_sharedKey (account : String) (epoch : ℤ) :
    (Credential.sharedKey account epoch).SparesFamilies :=
  fun _ => ⟨trivial, fun _ => ⟨trivial, fun _ => trivial⟩⟩

variable {net : Network} {next : Stage} {ctx : Context}

lemma Logger.sparesFamilies_log (g : Logger) (l : Level) (text : String) :
    (g.log l text).All Act.SparesFamilies := by
  rw [Logger.log]
  split
  · exact ⟨trivial, fun _ => trivial⟩
  · trivial

lemma HttpSender.sparesFamilies_exchange (h : net.SparesFamilies) (ctx : Context) (r : Request) :
    (exchange net ctx r).All Act.SparesFamilies := by
  refine ⟨trivial, ?_⟩
  rintro (e | payload)
  · trivial
  · refine (h r payload).bind ?_
    rintro (e | response) <;> trivial

lemma HttpSender.sparesFamilies_send (h : net.SparesFamilies) (s : HttpSender) :
    Stage.SparesFamilies (s.send net) := by
  intro ctx r
  refine ⟨trivial, ?_⟩
  rintro (_ | _)
  · refine (Activity.All.untilDone trivial (sparesFamilies_exchange h ctx r)).bind ?_
    rintro (reason | outcome) <;> trivial
  · trivial

lemma RequestLog.sparesFamilies_stage (o : RequestLogOptions) (h : Stage.SparesFamilies next)
    (log : Logger) : Stage.SparesFamilies (RequestLog.stage o next log) := fun ctx r =>
  (log.sparesFamilies_log _ _).bind fun _ => ⟨trivial, fun _ => (h ctx r).bind fun _ =>
    ⟨trivial, fun _ => (log.sparesFamilies_log _ _).bind fun _ => trivial⟩⟩

lemma Credential.sparesFamilies_inFront {c : Credential} (hc : c.SparesFamilies)
    (h : Stage.SparesFamilies next) : Stage.SparesFamilies (c.inFront next) := by
  intro ctx r
  refine (Credential.all_passes hc r).bind ?_
  rintro (e | q)
  · trivial
  · exact h ctx q

namespace Retry

variable {o : RetryOptions}

lemma sparesFamilies_attempt (h : Stage.SparesFamilies next) (ctx : Context) (n : ℕ)
    (r : Request) : (attempt o next ctx n r).All Act.SparesFamilies := by
  rw [attempt_eq]
  refine ⟨trivial, ?_⟩
  rintro (e | copy)
  · trivial
  · refine (all_renew trivial n copy).bind fun q => ⟨trivial, fun now => ?_⟩
    refine (Activity.All.expect _).bind fun limit => ⟨trivial, fun token => ?_⟩
    exact (Activity.All.untilDone trivial
      (Activity.All.timeoutAt (fun _ => trivial) (h _ _))).bind (all_conclude trivial n)

lemma sparesFamilies_tries (h : Stage.SparesFamilies next) (log : Logger) (ctx : Context)
    (r : Request) (left n : ℕ) : (tries o log next ctx r left n).All Act.SparesFamilies := by
  induction left generalizing n with
  | zero =>
    rw [tries_zero]
    refine ⟨trivial, ?_⟩
    rintro (_ | reason)
    · refine (sparesFamilies_attempt h ctx n r).bind fun outcome => ?_
      cases cause? outcome with
      | none => trivial
      | some cause => exact (log.sparesFamilies_log _ _).bind fun _ => trivial
    · trivial
  | succ left ih =>
    rw [tries_succ]
    refine ⟨trivial, ?_⟩
    rintro (_ | reason)
    · refine (sparesFamilies_attempt h ctx n r).bind fun outcome => ?_
      cases cause? outcome with
      | none => trivial
      | some cause =>
        refine (all_pause trivial (fun _ => trivial) trivial (fun _ => trivial) trivial _ _).bind ?_
        rintro (reason | _)
        · trivial
        · exact ih (n + 1)
    · trivial

end Retry

lemma Pipeline.sparesFamilies_send {agent : HeaderValue} {c : Credential} {retry : RetryOptions}
    {requestLog : RequestLogOptions} {own : Option HttpSender} {log : Logger}
    (hnet : net.SparesFamilies) (hc : c.SparesFamilies) (s : HttpSender) :
    Stage.SparesFamilies
      ((defaultBuilder agent c retry requestLog).onto (s.policy net) own log).send := by
  have hbelow := Credential.sparesFamilies_inFront hc
    (RequestLog.sparesFamilies_stage requestLog (s.sparesFamilies_send hnet) log)
  intro ctx r
  rw [Pipeline.send_onto, Telemetry.stage, RequestId.stage]
  split
  · exact Retry.sparesFamilies_tries hbelow _ _ _ _ _
  · exact ⟨trivial, fun id => Retry.sparesFamilies_tries hbelow _ _ _ _ _⟩

end QueueClient
