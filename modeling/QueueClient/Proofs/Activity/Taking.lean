/-
# Who gets a stream

Along a run a stream can be taken, by an act that takes the payload of a request with that stream
(`Event.obtains`).  Acts of other kinds and waits leave the ledger of streams alone, so that a run
finds a stream where it was unless an event of it has obtained it (`peek_run`); and what was
obtained cannot be obtained again, whoever tries (`obtains_at_most_once`).
-/
import QueueClient.Proofs.Activity.Seen
import QueueClient.Proofs.Body.Delivery

namespace QueueClient

/-- The event is an act that obtains the stream in a slot. -/
def Event.obtains (slot : ℕ) : Event → Bool
  | .acts (.payload r _) w => decide (r.body = .stream slot) && (w.streams.peek slot).isSome
  | _ => false

/-- The act takes no payload. -/
def Act.SparesStreams : Act → Prop
  | .payload _ _ => False
  | _ => True

namespace World

variable {w v : World} {slot : ℕ} {chunks : List (List UInt8)}

lemma streams_of_passes (h : w.Passes v) : v.streams = w.streams := by
  rw [h.rest]

lemma streams_perform {a : Act} (h : a.SparesStreams) (w : World) :
    (w.perform a).2.streams = w.streams := by
  cases a with
  | payload r n => exact absurd h id
  | _ => rfl

/-- An act that does not obtain the stream leaves it where it is. -/
lemma peek_perform_of_not_obtains {a : Act} (h : (Event.acts a w).obtains slot = false) :
    (w.perform a).2.streams.peek slot = w.streams.peek slot := by
  cases a with
  | payload r n =>
    show (r.payload w.streams n).2.peek slot = w.streams.peek slot
    cases hb : r.body with
    | empty =>
      have hplain : r.body.plain? = some none := by rw [hb]; rfl
      rw [Request.payload_of_plain hplain]
    | bytes content =>
      have hplain : r.body.plain? = some (some (.bytes content)) := by rw [hb]; rfl
      rw [Request.payload_of_plain hplain]
    | stream a =>
      have htake : (r.payload w.streams n).2 = (w.streams.take a).2 := by
        cases hpeek : w.streams.peek a with
        | none => rw [Request.payload_of_peek_none hb hpeek]
        | some chunks => rw [Request.payload_of_peek hb hpeek]
      rw [htake]
      by_cases ha : slot = a
      · -- the slot is its own, and empty already
        subst ha
        have hnone : w.streams.peek slot = none := by
          simpa [Event.obtains, hb] using h
        rw [Streams.peek_take_self, hnone]
      · exact Streams.peek_take_of_ne _ ha
  | _ => rfl

/-- An act that obtains the stream leaves the slot empty. -/
lemma peek_perform_of_obtains {a : Act} (h : (Event.acts a w).obtains slot = true) :
    (w.streams.peek slot).isSome ∧ (w.perform a).2.streams.peek slot = none := by
  cases a with
  | payload r n =>
    simp only [Event.obtains, Bool.and_eq_true, decide_eq_true_eq] at h
    obtain ⟨hb, hsome⟩ := h
    obtain ⟨chunks, hpeek⟩ := Option.isSome_iff_exists.mp hsome
    refine ⟨hsome, ?_⟩
    show (r.payload w.streams n).2.peek slot = none
    rw [Request.payload_of_peek hb hpeek]
    exact Streams.peek_take_self _ _
  | _ => simp [Event.obtains] at h

end World

namespace Activity

variable {α : Type} {p : Activity α} {w v : World} {slot : ℕ} {x : Option α}

/-- An activity that takes no payloads leaves the streams alone. -/
lemma streams_run (hp : p.All Act.SparesStreams) (h : p.run w = (x, v)) :
    v.streams = w.streams :=
  hp.kept_of_run (fun _ _ => World.streams_of_passes) (fun _ w ha => World.streams_perform ha w) h

lemma filter_obtains_waits (slot : ℕ) (worlds : List World) (events : List Event) :
    (worlds.map Event.waits ++ events).filter (Event.obtains slot) =
      events.filter (Event.obtains slot) := by
  rw [List.filter_append, List.filter_eq_nil_iff.mpr, List.nil_append]
  intro e he
  obtain ⟨u, -, rfl⟩ := List.mem_map.mp he
  simp [Event.obtains]

/-- The one walk along a run: a slot that is empty stays so and is not obtained; otherwise it is
obtained at most once and empty afterwards, or not obtained and as before. -/
lemma filter_obtains_trace (p : Activity α) (w : World) (slot : ℕ) :
    ((p.trace w).filter (Event.obtains slot) = [] ∧
      (p.run w).2.streams.peek slot = w.streams.peek slot) ∨
    ((w.streams.peek slot).isSome ∧ ((p.trace w).filter (Event.obtains slot)).length = 1 ∧
      (p.run w).2.streams.peek slot = none) := by
  induction p generalizing w with
  | done a => exact Or.inl ⟨rfl, rfl⟩
  | act a k ih =>
    have hrest := ih (w.perform a).1 (w.perform a).2
    rw [trace_act, run_act]
    cases hobtains : (Event.acts a w).obtains slot with
    | false =>
      have hpeek := World.peek_perform_of_not_obtains hobtains
      rw [List.filter_cons_of_neg (by simp [hobtains])]
      rwa [hpeek] at hrest
    | true =>
      obtain ⟨hsome, hnone⟩ := World.peek_perform_of_obtains hobtains
      rw [List.filter_cons_of_pos hobtains]
      right
      rcases hrest with ⟨hnil, hend⟩ | ⟨hagain, -, -⟩
      · exact ⟨hsome, by rw [hnil]; rfl, hend.trans hnone⟩
      · rw [hnone] at hagain
        cases hagain
  | wait wake k ih =>
    cases hs : w.sleep wake with
    | none =>
      left
      have htrace := filter_obtains_waits slot (w.pause wake) []
      rw [List.append_nil] at htrace
      rw [trace_wait_of_none hs, run_wait_of_none hs, htrace]
      exact ⟨rfl, rfl⟩
    | some u =>
      rw [trace_wait_of_some hs, run_wait_of_some hs, filter_obtains_waits,
        ← World.streams_of_passes (World.passes_of_sleep hs)]
      exact ih u
  | never | abort => exact Or.inl ⟨rfl, rfl⟩

/-- **A stream is obtained at most once in a run**, whatever runs. -/
theorem obtains_at_most_once (p : Activity α) (w : World) (slot : ℕ) :
    ((p.trace w).filter (Event.obtains slot)).length ≤ 1 := by
  rcases filter_obtains_trace p w slot with ⟨hnil, -⟩ | ⟨-, hone, -⟩
  · rw [hnil]
    exact Nat.zero_le 1
  · exact hone.le

/-- Without an event that obtains it, a stream is at the end where it was. -/
lemma peek_run (h : p.run w = (x, v)) (hnot : ∀ e ∈ p.trace w, e.obtains slot = false) :
    v.streams.peek slot = w.streams.peek slot := by
  rcases filter_obtains_trace p w slot with ⟨-, hend⟩ | ⟨-, hone, -⟩
  · rwa [h] at hend
  · rw [List.filter_eq_nil_iff.mpr fun e he => by simp [hnot e he]] at hone
    cases hone

/-- With one, it is gone. -/
lemma peek_run_of_obtains (h : p.run w = (x, v)) {e : Event} (he : e ∈ p.trace w)
    (hobtains : e.obtains slot = true) : v.streams.peek slot = none := by
  rcases filter_obtains_trace p w slot with ⟨hnil, -⟩ | ⟨-, -, hend⟩
  · exact absurd hobtains (List.filter_eq_nil_iff.mp hnil e he)
  · rwa [h] at hend

end Activity

end QueueClient
