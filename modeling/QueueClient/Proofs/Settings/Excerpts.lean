/-
# Options from excerpts of their documents

What is written of pipeline options is read back, apart from the log and the sender, which are not
written.  More is true: every excerpt of that document, at either level, is read, and says of each
option what the whole document says or nothing; an option of which nothing is said is as usual
(`PipelineOptions.shown`).  This is not the same as null: a threshold of the request log that is not
there is the usual one, and one that is null is none.

For each kind of options it is enough that each of its fields takes what is written of it
(`Takes`).  The upper level goes like the lower one: there a field takes every excerpt of what is
written of it, by what is proved of the lower level.
-/
import QueueClient.Proofs.Json.ReadBack
import QueueClient.Proofs.Settings.Record

namespace QueueClient

variable {doc v : Json} {said : String → Option Json}

/-! ## Single values -/

namespace Settings

lemma readNat_of_reordered {bound n : ℕ} (h : v.Reordered (.ofNat n)) (hn : n < bound) :
    readNat bound v = some n := by
  rw [h.eq_of_ne (fun _ => Json.noConfusion), Json.ofNat, readNat,
    if_pos ⟨Int.natCast_nonneg n, hn⟩]
  rfl

lemma readText_of_reordered {s : String} (h : v.Reordered (.ofString s)) :
    readText v = some s := by
  rw [h.eq_of_ne fun _ => Json.noConfusion]
  rfl

lemma readBackoff_of_reordered {b : Backoff} (h : v.Reordered (.ofString b.name)) :
    readBackoff v = some b := by
  rw [h.eq_of_ne fun _ => Json.noConfusion]
  cases b <;> rfl

lemma durationOf_parts (d : Duration) :
    durationOf (.ofNat d.secs) (.ofNat d.subsecNanos) = some d := by
  have hnanos : d.subsecNanos < UInt32.size := d.subsecNanos_lt.trans (by decide)
  have hrange : d.secs * 1_000_000_000 + d.subsecNanos < UInt64.size * 1_000_000_000 := by
    rw [d.secs_add_subsecNanos]
    exact d.nanos_lt
  rw [durationOf, readNat_of_reordered (.refl _) d.secs_lt, readNat_of_reordered (.refl _) hnanos,
    Option.bind_eq_bind, Option.bind_some, Option.bind_some, dif_pos hrange]
  exact congrArg some (Duration.ext d.secs_add_subsecNanos)

/-- **A duration is read back**, whichever of its parts comes first. -/
lemma readDuration_of_reordered {d : Duration} (h : v.Reordered (writeDuration d)) :
    readDuration v = some d := by
  have hsecs : readDuration (writeDuration d) = some d := by
    show readDuration (.object [(some "secs", _), (some "nanos", _)]) = _
    rw [readDuration, if_pos ⟨rfl, rfl⟩, durationOf_parts]
  have hnanos : readDuration (.ofMembers
      [("nanos", .ofNat d.subsecNanos), ("secs", .ofNat d.secs)]) = some d := by
    show readDuration (.object [(some "nanos", _), (some "secs", _)]) = _
    rw [readDuration, if_neg (by decide), if_pos ⟨rfl, rfl⟩, durationOf_parts]
  generalize hw : writeDuration d = w at h
  cases h with
  | refl => rw [← hw, hsecs]
  | members order =>
    obtain rfl := Json.ofMembers_injective hw
    rcases List.perm_pair.mp order with rfl | rfl
    exacts [hsecs, hnanos]

lemma readOption_of_reordered {α : Type} {read : Json → Option α} {write : α → Json}
    (hread : ∀ {v a}, v.Reordered (write a) → read v = some a) (hnull : ∀ a, write a ≠ .null)
    {a? : Option α} (h : v.Reordered (.ofOption (a?.map write))) :
    readOption read v = some a? := by
  cases a? with
  | none =>
    rw [h.eq_of_ne fun _ => Json.noConfusion]
    rfl
  | some a =>
    rw [readOption, hread h, Option.map_some]
    rintro rfl
    exact hnull a h.eq_null

end Settings

/-! ## What an excerpt says

Each kind of options with those fields that something is said about, and the usual values elsewhere.
-/

/-- Retry options as far as something is said about them. -/
def RetryOptions.shown (o : RetryOptions) (said : String → Option Json) : RetryOptions where
  backoff := (said "policy").elim unset.backoff fun _ => o.backoff
  maxTries := (said "max_tries").elim unset.maxTries fun _ => o.maxTries
  tryTimeout := (said "try_timeout").elim unset.tryTimeout fun _ => o.tryTimeout
  retryDelay := (said "retry_delay").elim unset.retryDelay fun _ => o.retryDelay
  maxRetryDelay := (said "max_retry_delay").elim unset.maxRetryDelay fun _ => o.maxRetryDelay

/-- Options of the request log as far as something is said about them. -/
def RequestLogOptions.shown (o : RequestLogOptions) (said : String → Option Json) :
    RequestLogOptions where
  slowThreshold :=
    (said "log_warning_if_try_over_threshold").elim default.slowThreshold fun _ => o.slowThreshold

/-- What the application calls itself, if something is said about that. -/
def Telemetry.shown (value : String) (said : String → Option Json) : String :=
  (said "value").elim "" fun _ => value

/-- Transport options as far as something is said about them. -/
def TransportOptions.shown (o : TransportOptions) (said : String → Option Json) :
    TransportOptions where
  maxIdlePerHost :=
    (said "pool_max_idle_per_host").elim default.maxIdlePerHost fun _ => o.maxIdlePerHost
  idleTimeout := (said "pool_idle_timeout").elim default.idleTimeout fun _ => o.idleTimeout
  connectTimeout := (said "connect_timeout").elim default.connectTimeout fun _ => o.connectTimeout
  keepalive := (said "tcp_keepalive").elim default.keepalive fun _ => o.keepalive
  handshakeTimeout :=
    (said "tls_handshake_timeout").elim default.handshakeTimeout fun _ => o.handshakeTimeout
  proxyUrl := (said "proxy_url").elim default.proxyUrl fun _ => o.proxyUrl

/-- Pipeline options as far as something is said about them, at either level of a document. -/
def PipelineOptions.shown (o : PipelineOptions) (said : String → Option Json) :
    PipelineOptions where
  log := none
  retry := (said "retry").elim .unset fun doc => o.retry.shown doc.member?
  requestLog := (said "request_log").elim .default fun doc => o.requestLog.shown doc.member?
  telemetry := (said "telemetry").elim "" fun doc => Telemetry.shown o.telemetry doc.member?
  transport := (said "transport").elim .default fun doc => o.transport.shown doc.member?
  sender := none

namespace Settings

/-! ## The lower level -/

lemma readRetry_of_excerpt {o : RetryOptions} (h : doc.Excerpt Json.Reordered (writeRetry o)) :
    readRetry doc = some (o.shown doc.member?) := by
  refine Takes.readRecord_eq o.shown ⟨by simp, fun said said' h => ?_, ?_⟩ h
  -- `shown` asks for nothing but the names of the fields
  · simp only [List.map_cons, List.map_nil, List.forall_mem_cons] at h
    simp only [RetryOptions.shown, h]
  -- the fields and what is written of them, in step
  · refine .cons ⟨rfl, ?_⟩ (.cons ⟨rfl, ?_⟩ (.cons ⟨rfl, ?_⟩ (.cons ⟨rfl, ?_⟩
      (.cons ⟨rfl, ?_⟩ .nil))))
    all_goals intro v hv said
    · simp [readBackoff_of_reordered hv, RetryOptions.shown]
    · simp [readNat_of_reordered hv (UInt32.toNat_lt_size _), RetryOptions.shown]
    · simp [readDuration_of_reordered hv, RetryOptions.shown]
    · simp [readDuration_of_reordered hv, RetryOptions.shown]
    · simp [readDuration_of_reordered hv, RetryOptions.shown]

lemma readRequestLog_of_excerpt {o : RequestLogOptions}
    (h : doc.Excerpt Json.Reordered (writeRequestLog o)) :
    readRequestLog doc = some (o.shown doc.member?) := by
  refine Takes.readRecord_eq o.shown ⟨by simp, fun said said' h => ?_, ?_⟩ h
  · simp only [List.map_cons, List.map_nil, List.forall_mem_cons] at h
    simp only [RequestLogOptions.shown, h]
  · refine .cons ⟨rfl, fun v hv said => ?_⟩ .nil
    have hread := readOption_of_reordered readDuration_of_reordered
      (fun _ => Json.noConfusion) hv
    simp [hread, RequestLogOptions.shown]

lemma readTelemetry_of_excerpt {value : String}
    (h : doc.Excerpt Json.Reordered (writeTelemetry value)) :
    readTelemetry doc = some (Telemetry.shown value doc.member?) := by
  refine Takes.readRecord_eq (Telemetry.shown value)
    ⟨by simp, fun said said' h => ?_, ?_⟩ h
  · simp only [List.map_cons, List.map_nil, List.forall_mem_cons] at h
    simp only [Telemetry.shown, h]
  · refine .cons ⟨rfl, fun v hv said => ?_⟩ .nil
    simp [readText_of_reordered hv, Telemetry.shown]

lemma readTransport_of_excerpt {o : TransportOptions}
    (h : doc.Excerpt Json.Reordered (writeTransport o)) :
    readTransport doc = some (o.shown doc.member?) := by
  refine Takes.readRecord_eq o.shown ⟨by simp, fun said said' h => ?_, ?_⟩ h
  · simp only [List.map_cons, List.map_nil, List.forall_mem_cons] at h
    simp only [TransportOptions.shown, h]
  · refine .cons ⟨rfl, ?_⟩ (.cons ⟨rfl, ?_⟩ (.cons ⟨rfl, ?_⟩ (.cons ⟨rfl, ?_⟩ (.cons ⟨rfl, ?_⟩
      (.cons ⟨rfl, ?_⟩ .nil)))))
    all_goals intro v hv said
    · simp [readNat_of_reordered hv (UInt64.toNat_lt_size _), TransportOptions.shown]
    · simp [readDuration_of_reordered hv, TransportOptions.shown]
    · simp [readDuration_of_reordered hv, TransportOptions.shown]
    · simp [readDuration_of_reordered hv, TransportOptions.shown]
    · simp [readDuration_of_reordered hv, TransportOptions.shown]
    · have hread := readOption_of_reordered readText_of_reordered (fun _ => Json.noConfusion) hv
      simp [hread, TransportOptions.shown]

/-! ## Both levels -/

variable {o : PipelineOptions}

lemma readPipeline_of_excerpt (h : doc.Excerpt (Json.Excerpt Json.Reordered) (writePipeline o)) :
    readPipeline doc = some (o.shown doc.member?) := by
  refine Takes.readRecord_eq o.shown ⟨by simp, fun said said' h => ?_, ?_⟩ h
  · simp only [List.map_cons, List.map_nil, List.forall_mem_cons] at h
    simp only [PipelineOptions.shown, h]
  · refine .cons ⟨rfl, ?_⟩ (.cons ⟨rfl, ?_⟩ (.cons ⟨rfl, ?_⟩ (.cons ⟨rfl, ?_⟩ .nil)))
    all_goals intro doc hdoc said
    · simp [readRetry_of_excerpt hdoc, PipelineOptions.shown]
    · simp [readRequestLog_of_excerpt hdoc, PipelineOptions.shown]
    · simp [readTelemetry_of_excerpt hdoc, PipelineOptions.shown]
    · simp [readTransport_of_excerpt hdoc, PipelineOptions.shown]

/-- What is written is an excerpt of itself. -/
lemma excerpt_writePipeline (o : PipelineOptions) :
    (writePipeline o).Excerpt (Json.Excerpt Json.Reordered) (writePipeline o) := by
  refine .refl ?_
  simp only [List.forall_mem_cons, List.not_mem_nil, false_implies, implies_true, and_true]
  exact ⟨.refl fun _ _ => .refl _, .refl fun _ _ => .refl _, .refl fun _ _ => .refl _,
    .refl fun _ _ => .refl _⟩

/-- It says everything but the log and the sender. -/
lemma shown_writePipeline (o : PipelineOptions) :
    o.shown (writePipeline o).member? = { o with log := none, sender := none } := rfl

/-- What a document says of the threshold of the request log. -/
def thresholdIn (doc : Json) : Option Json :=
  (doc.member? "request_log").bind fun log => log.member? "log_warning_if_try_over_threshold"

lemma slowThreshold_shown (o : PipelineOptions) (doc : Json) :
    (o.shown doc.member?).requestLog.slowThreshold =
      (thresholdIn doc).elim (some (.ofSecs 3)) fun _ => o.requestLog.slowThreshold := by
  show ((doc.member? "request_log").elim RequestLogOptions.default
    fun log => o.requestLog.shown log.member?).slowThreshold = _
  rw [thresholdIn]
  cases doc.member? "request_log" <;> rfl

/-- Null is written for no threshold, and for nothing else. -/
lemma slowThreshold_of_null (h : doc.Excerpt (Json.Excerpt Json.Reordered) (writePipeline o))
    (hnull : thresholdIn doc = some .null) : o.requestLog.slowThreshold = none := by
  obtain ⟨log, hlog, hmember⟩ := Option.bind_eq_some_iff.mp hnull
  have hexcerpt : log.Excerpt Json.Reordered (writeRequestLog o.requestLog) :=
    h.same_of_member? (by simp) (by simp) hlog
  have hsame := (hexcerpt.same_of_member? (by simp) (List.mem_singleton.mpr rfl) hmember).eq_null
  cases hthreshold : o.requestLog.slowThreshold with
  | none => rfl
  | some d =>
    rw [hthreshold] at hsame
    exact Json.noConfusion hsame

/-- **Options come through a document.**  The text that is written of them is read back, apart from
the log and the sender.  An excerpt of the document, at either level, is read too, and gives the
options that it speaks of and the usual ones elsewhere; so a threshold that it does not have is
three seconds, and one that is null is none. -/
theorem pipeline_round_trip (o : PipelineOptions) :
    (Json.read? (writePipeline o).render).bind readPipeline =
      some { o with log := none, sender := none } ∧
    ∀ doc, doc.Excerpt (Json.Excerpt Json.Reordered) (writePipeline o) →
      readPipeline doc = some (o.shown doc.member?) ∧
      (Json.read? doc.render).bind readPipeline = some (o.shown doc.member?) ∧
      (thresholdIn doc = none →
        (o.shown doc.member?).requestLog.slowThreshold = some (.ofSecs 3)) ∧
      (thresholdIn doc = some .null →
        (o.shown doc.member?).requestLog.slowThreshold = none) := by
  have hread : ∀ {doc : Json}, doc.Excerpt (Json.Excerpt Json.Reordered) (writePipeline o) →
      (Json.read? doc.render).bind readPipeline = some (o.shown doc.member?) := by
    intro doc h
    rw [Json.read?_render, Option.bind_some, readPipeline_of_excerpt h]
  refine ⟨?_, fun doc h =>
    ⟨readPipeline_of_excerpt h, hread h, fun habsent => ?_, fun hnull => ?_⟩⟩
  · rw [hread (excerpt_writePipeline o), shown_writePipeline]
  · rw [slowThreshold_shown, habsent]
    rfl
  · rw [slowThreshold_shown, hnull, Option.elim_some, slowThreshold_of_null h hnull]

/-- Options with most fields set, and no threshold. -/
def sampleOptions : PipelineOptions :=
  { PipelineOptions.default with
    retry := ⟨.fixed, 7, .ofSecs 20, .ofMillis 1500, .ofSecs 9⟩
    requestLog := ⟨none⟩
    telemetry := "orders" }

/-- The longest delay of these options, with its parts in the other order. -/
def sampleDelay : Json := .ofMembers [("nanos", .ofNat 0), ("secs", .ofNat 9)]

/-- Two of their retry options, in another order. -/
def sampleRetry : Json := .ofMembers [("max_retry_delay", sampleDelay), ("max_tries", .ofNat 7)]

/-- Their threshold, which is null, behind a member that is not known. -/
def sampleLog : Json :=
  .ofMembers [("colour", .bool true), ("log_warning_if_try_over_threshold", .null)]

/-- Both of these in a document, with a log that is not read. -/
def sampleExcerpt : Json :=
  .ofMembers [("log", .real), ("request_log", sampleLog), ("retry", sampleRetry)]

/-- From that document the two retry options are read and the null, and nothing else. -/
theorem pipeline_round_trip_sample :
    sampleExcerpt.Excerpt (Json.Excerpt Json.Reordered) (writePipeline sampleOptions) ∧
    readPipeline sampleExcerpt = some { PipelineOptions.default with
      retry := { RetryOptions.unset with maxTries := 7, maxRetryDelay := .ofSecs 9 }
      requestLog := ⟨none⟩ } ∧
    thresholdIn sampleExcerpt = some .null ∧
    (sampleOptions.shown sampleExcerpt.member?).requestLog.slowThreshold = none := by
  have hdelay : sampleDelay.Reordered (writeDuration sampleOptions.retry.maxRetryDelay) :=
    .members (.swap _ _ [])
  have hretry : sampleRetry.Excerpt Json.Reordered (writeRetry sampleOptions.retry) :=
    .intro [("max_tries", .ofNat 7), ("max_retry_delay", sampleDelay)] []
      (.swap _ _ []) (.cons_right (.cons ⟨rfl, .refl _⟩ (.cons_right (.cons_right
        (.cons ⟨rfl, hdelay⟩ .nil))))) (by simp)
  have hlog : sampleLog.Excerpt Json.Reordered (writeRequestLog sampleOptions.requestLog) :=
    .intro [("log_warning_if_try_over_threshold", .null)] [("colour", .bool true)]
      (.swap _ _ []) (.cons ⟨rfl, .refl _⟩ .nil) (by simp)
  have h : sampleExcerpt.Excerpt (Json.Excerpt Json.Reordered) (writePipeline sampleOptions) :=
    .intro [("retry", sampleRetry), ("request_log", sampleLog)] [("log", .real)]
      (List.reverse_perm _).symm
      (.cons ⟨rfl, hretry⟩ (.cons ⟨rfl, hlog⟩ .nil)) (by simp)
  have hresult := (pipeline_round_trip sampleOptions).2 sampleExcerpt h
  exact ⟨h, hresult.1, rfl, hresult.2.2.2 rfl⟩

end Settings

end QueueClient
