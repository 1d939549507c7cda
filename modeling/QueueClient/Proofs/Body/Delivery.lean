/-
# One-shot bodies

The copies of a request share the slot that holds the stream of its body, and a new body takes a
request away from the slot that it shared.  To say what becomes of a stream under any sequence of
such deeds, in the order in which the senders of the copies happen to do them, the requests and
the ledger of their streams are put together (`Desk`); what a deed does is `Desk.reply` and
`Desk.step`.

A slot changes once at most: from full to empty, when it is taken.  A deed either leaves a slot as
it is or hands its stream out (`Desk.peek_step`), and from this one step it follows for all
sequences of deeds that a stream is handed out once at most, whole, and that all copies can be
sent before and none afterwards (`Desk.delivers`).
-/
import Mathlib.Tactic
import QueueClient.Replay

namespace QueueClient

namespace Streams

variable {s : Streams} {a b : ℕ}

lemma lt_of_peek {chunks : List (List UInt8)} (h : s.peek a = some chunks) :
    a < s.slots.length := by
  by_contra hle
  rw [peek, List.getElem?_eq_none (not_lt.mp hle)] at h
  simp at h

lemma peek_take_self (s : Streams) (a : ℕ) : (s.take a).2.peek a = none := by
  rw [take, peek]
  by_cases h : a < s.slots.length
  · simp [h]
  · simp [List.getElem?_eq_none (l := s.slots.set a none) (i := a) (by simpa using h)]

/-- Taking a stream leaves all others. -/
lemma peek_take_of_ne (s : Streams) (h : b ≠ a) : (s.take a).2.peek b = s.peek b := by
  rw [take, peek, List.getElem?_set_ne h.symm, peek]

lemma peek_put_self (s : Streams) (chunks : List (List UInt8)) :
    (s.put chunks).2.peek (s.put chunks).1 = some chunks := by
  simp [put, peek]

lemma peek_put_of_lt (chunks : List (List UInt8)) (h : a < s.slots.length) :
    (s.put chunks).2.peek a = s.peek a := by
  rw [put, peek, peek, List.getElem?_append_left h]

lemma length_take (s : Streams) (a : ℕ) : (s.take a).2.slots.length = s.slots.length :=
  List.length_set

end Streams

/-! ## Bodies and the ledger -/

namespace Body

/-- The slot of the body, if it has one, is a slot of the ledger. -/
def IsIn (s : Streams) : Body → Prop
  | stream slot => slot < s.slots.length
  | _ => True

/-- What there is to send of a body that is no stream. -/
def plain? : Body → Option (Option Payload)
  | empty => some none
  | bytes content => some (some (.bytes content))
  | stream _ => none

lemma IsIn.mono {s t : Streams} {b : Body} (h : b.IsIn s)
    (hle : s.slots.length ≤ t.slots.length) : b.IsIn t := by
  cases b with
  | stream slot => exact lt_of_lt_of_le h hle
  | _ => trivial

lemma length_take (s : Streams) (b : Body) : (b.take s).2.slots.length = s.slots.length := by
  cases b with
  | stream slot => exact s.length_take slot
  | _ => rfl

end Body

namespace Request

variable {r : Request} {s : Streams} {slot : ℕ} {chunks : List (List UInt8)}

lemma rewind_of_plain {p : Option Payload} (h : r.body.plain? = some p) (s : Streams)
    (attempt : ℕ) : r.rewind s attempt = .ok r := by
  rw [rewind]
  cases hb : r.body with
  | stream slot => simp [hb, Body.plain?] at h
  | _ => rfl

lemma payload_of_plain {p : Option Payload} (h : r.body.plain? = some p) (s : Streams)
    (attempt : ℕ) : r.payload s attempt = (.ok p, s) := by
  rw [payload]
  cases hb : r.body with
  | stream slot => simp [hb, Body.plain?] at h
  | _ =>
    rw [hb, Body.plain?, Option.some.injEq] at h
    rw [← h]
    rfl

lemma rewind_of_peek (hb : r.body = .stream slot) (h : s.peek slot = some chunks)
    (attempt : ℕ) : r.rewind s attempt = .ok r := by
  simp [rewind, hb, Body.canReplay, h]

lemma payload_of_peek (hb : r.body = .stream slot) (h : s.peek slot = some chunks)
    (attempt : ℕ) : r.payload s attempt = (.ok (some (.chunks chunks)), (s.take slot).2) := by
  simp [payload, hb, Body.take, Streams.take, h]

lemma rewind_of_peek_none (hb : r.body = .stream slot) (h : s.peek slot = none)
    (attempt : ℕ) : r.rewind s attempt = .error (.bodyNotReplayable attempt) := by
  simp [rewind, hb, Body.canReplay, h]

lemma payload_of_peek_none (hb : r.body = .stream slot) (h : s.peek slot = none)
    (attempt : ℕ) :
    r.payload s attempt = (.error (.bodyNotReplayable attempt), (s.take slot).2) := by
  simp [payload, hb, Body.take, Streams.take, h]

/-- A copy is the request itself. -/
lemma eq_of_rewind {q : Request} {attempt : ℕ} (h : r.rewind s attempt = .ok q) : q = r := by
  rw [rewind] at h
  split at h
  · exact (Except.ok.inj h).symm
  · cases h

lemma length_payload (r : Request) (s : Streams) (attempt : ℕ) :
    (r.payload s attempt).2.slots.length = s.slots.length := by
  have htake := r.body.length_take s
  rw [payload]
  split <;> simp_all

end Request

/-! ## Requests that share their streams -/

/-- Requests and the ledger with the streams of their bodies. -/
structure Desk where
  /-- The ledger. -/
  streams : Streams
  /-- The requests so far. -/
  requests : List Request
  /-- All their streams are in the ledger. -/
  held : ∀ r ∈ requests, r.body.IsIn streams

/-- Where a new body comes from.  A text or bytes become `nothing` or `bytes`. -/
inductive BodySource where
  /-- It is empty. -/
  | nothing
  /-- It is made of bytes, possibly none. -/
  | bytes (content : List UInt8)
  /-- It is made of a stream. -/
  | stream (chunks : List (List UInt8))
  /-- It is that of another request. -/
  | shared (i : ℕ)

/-- What can be done with the `i`-th request. -/
inductive Deed where
  /-- Copy it as it is. -/
  | clone (i : ℕ)
  /-- Copy it for a try. -/
  | rewind (i attempt : ℕ)
  /-- Give it another body. -/
  | withBody (i : ℕ) (source : BodySource)
  /-- Turn its body into what is sent in a try. -/
  | convert (i attempt : ℕ)

/-- What comes of a deed. -/
inductive Reply where
  /-- A request. -/
  | request (r : Request)
  /-- Something to send. -/
  | payload (p : Option Payload)
  /-- It cannot be done. -/
  | refused (e : Error)
  /-- There is no such request. -/
  | unknown
deriving DecidableEq

namespace Desk

/-- A new body, if it can be had, and the ledger then. -/
def make (d : Desk) : BodySource → Option Body × Streams
  | .nothing => (some .empty, d.streams)
  | .bytes content => (some (.bytes content), d.streams)
  | .stream chunks => (some (.stream (d.streams.put chunks).1), (d.streams.put chunks).2)
  | .shared i => (d.requests[i]?.map (·.body), d.streams)

/-- What comes of a deed. -/
def reply (d : Desk) : Deed → Reply
  | .clone i =>
    match d.requests[i]? with
    | some r => .request r
    | none => .unknown
  | .rewind i attempt =>
    match d.requests[i]? with
    | some r =>
      match r.rewind d.streams attempt with
      | .ok copy => .request copy
      | .error e => .refused e
    | none => .unknown
  | .withBody i source =>
    match d.requests[i]?, (d.make source).1 with
    | some r, some body => .request { r with body }
    | _, _ => .unknown
  | .convert i attempt =>
    match d.requests[i]? with
    | some r =>
      match (r.payload d.streams attempt).1 with
      | .ok p => .payload p
      | .error e => .refused e
    | none => .unknown

/-- The ledger after a deed. -/
def streamsAfter (d : Desk) : Deed → Streams
  | .withBody _ source => (d.make source).2
  | .convert i attempt =>
    match d.requests[i]? with
    | some r => (r.payload d.streams attempt).2
    | none => d.streams
  | _ => d.streams

/-- The requests after a deed: copies are put at the end. -/
def requestsAfter (d : Desk) (deed : Deed) : List Request :=
  match d.reply deed with
  | .request r =>
    match deed with
    | .withBody i _ => d.requests.set i r
    | _ => d.requests ++ [r]
  | _ => d.requests

variable {d : Desk} {slot : ℕ} {chunks : List (List UInt8)} {r : Request} {i attempt : ℕ}

lemma length_streamsAfter (d : Desk) (deed : Deed) :
    d.streams.slots.length ≤ (d.streamsAfter deed).slots.length := by
  cases deed with
  | withBody i source =>
    cases source with
    | stream chunks => simp [streamsAfter, make, Streams.put]
    | _ => exact le_refl _
  | convert i attempt =>
    rw [streamsAfter]
    split
    · exact (Request.length_payload _ _ _).ge
    · exact le_refl _
  | _ => exact le_refl _

/-- New bodies are in the ledger. -/
lemma isIn_of_make {source : BodySource} {b : Body} (h : (d.make source).1 = some b) :
    b.IsIn (d.make source).2 := by
  cases source with
  | nothing =>
    obtain rfl : Body.empty = b := Option.some.inj h
    trivial
  | bytes content =>
    obtain rfl : Body.bytes content = b := Option.some.inj h
    trivial
  | stream chunks =>
    obtain rfl : Body.stream (d.streams.put chunks).1 = b := Option.some.inj h
    exact Streams.lt_of_peek (d.streams.peek_put_self chunks)
  | shared i =>
    obtain ⟨r, hr, rfl⟩ := Option.map_eq_some_iff.mp h
    exact d.held r (List.mem_of_getElem? hr)

/-- Every request that comes of a deed has its stream in the ledger. -/
lemma isIn_of_reply {deed : Deed} (h : d.reply deed = .request r) :
    r.body.IsIn (d.streamsAfter deed) := by
  cases deed with
  | clone i =>
    rw [reply] at h
    split at h
    · rename_i q hq
      obtain rfl : q = r := Reply.request.inj h
      exact d.held q (List.mem_of_getElem? hq)
    · cases h
  | rewind i attempt =>
    rw [reply] at h
    split at h
    · rename_i q hq
      split at h
      · rename_i copy hcopy
        obtain rfl : copy = r := Reply.request.inj h
        rw [Request.eq_of_rewind hcopy]
        exact d.held q (List.mem_of_getElem? hq)
      · cases h
    · cases h
  | withBody i source =>
    rw [reply] at h
    split at h
    · rename_i q body _ hbody
      rw [← Reply.request.inj h]
      exact isIn_of_make hbody
    · cases h
  | convert i attempt =>
    rw [reply] at h
    split at h
    · split at h <;> cases h
    · cases h

lemma held_after (d : Desk) (deed : Deed) :
    ∀ r ∈ d.requestsAfter deed, r.body.IsIn (d.streamsAfter deed) := by
  intro r hr
  have hold : ∀ q ∈ d.requests, q.body.IsIn (d.streamsAfter deed) := fun q hq =>
    (d.held q hq).mono (d.length_streamsAfter deed)
  unfold requestsAfter at hr
  split at hr
  · rename_i q hq
    have hnew : q.body.IsIn (d.streamsAfter deed) := isIn_of_reply hq
    split at hr
    · rcases List.mem_or_eq_of_mem_set hr with hr | rfl
      · exact hold r hr
      · exact hnew
    · rcases List.mem_append.mp hr with hr | hr
      · exact hold r hr
      · rw [List.mem_singleton.mp hr]
        exact hnew
  · exact hold r hr

/-- The desk after a deed. -/
def step (d : Desk) (deed : Deed) : Desk :=
  ⟨d.streamsAfter deed, d.requestsAfter deed, d.held_after deed⟩

/-- The desk after a sequence of deeds. -/
def after (d : Desk) (deeds : List Deed) : Desk := deeds.foldl step d

/-- What a deed hands out of a slot. -/
def handsOut (d : Desk) (slot : ℕ) : Deed → List (Option Payload)
  | .convert i attempt =>
    match d.requests[i]?, d.reply (.convert i attempt) with
    | some r, .payload p => if r.body = .stream slot then [p] else []
    | _, _ => []
  | _ => []

/-- What a sequence of deeds hands out of a slot. -/
def handedOut (slot : ℕ) : Desk → List Deed → List (Option Payload)
  | _, [] => []
  | d, deed :: deeds => d.handsOut slot deed ++ (d.step deed).handedOut slot deeds

/-! ## One deed -/

/-- A conversion of a request that is there. -/
lemma reply_convert (hr : d.requests[i]? = some r) (attempt : ℕ) :
    d.reply (.convert i attempt) =
      match (r.payload d.streams attempt).1 with
      | .ok p => .payload p
      | .error e => .refused e := by
  rw [reply, hr]

lemma reply_rewind (hr : d.requests[i]? = some r) (attempt : ℕ) :
    d.reply (.rewind i attempt) =
      match r.rewind d.streams attempt with
      | .ok copy => .request copy
      | .error e => .refused e := by
  rw [reply, hr]

/-- A conversion hands out what its request has to send, if that is of the slot. -/
lemma handsOut_convert (hr : d.requests[i]? = some r) (slot attempt : ℕ) :
    d.handsOut slot (.convert i attempt) =
      match (r.payload d.streams attempt).1 with
      | .ok p => if r.body = .stream slot then [p] else []
      | .error _ => [] := by
  rw [handsOut, reply_convert hr, hr]
  cases (r.payload d.streams attempt).1 <;> rfl

/-- **What a deed can do to a slot.**  It leaves the slot as it is, or it hands out the stream that
was there and leaves the slot empty. -/
theorem peek_step (deed : Deed) (hslot : slot < d.streams.slots.length) :
    (d.handsOut slot deed = [] ∧ (d.step deed).streams.peek slot = d.streams.peek slot) ∨
    ∃ chunks, d.streams.peek slot = some chunks ∧
      d.handsOut slot deed = [some (.chunks chunks)] ∧
      (d.step deed).streams.peek slot = none := by
  cases deed with
  | clone i => exact Or.inl ⟨rfl, rfl⟩
  | rewind i attempt => exact Or.inl ⟨rfl, rfl⟩
  | withBody i source =>
    refine Or.inl ⟨rfl, ?_⟩
    cases source with
    | stream chunks => exact Streams.peek_put_of_lt chunks hslot
    | _ => rfl
  | convert i attempt =>
    cases hr : d.requests[i]? with
    | none =>
      refine Or.inl ⟨by simp [handsOut, hr], ?_⟩
      simp [step, streamsAfter, hr]
    | some r =>
      rw [handsOut_convert hr]
      have hstreams : (d.step (.convert i attempt)).streams = (r.payload d.streams attempt).2 := by
        simp [step, streamsAfter, hr]
      rw [hstreams]
      cases hb : r.body with
      | empty =>
        have hplain : r.body.plain? = some none := by rw [hb]; rfl
        rw [Request.payload_of_plain hplain]
        simp
      | bytes content =>
        have hplain : r.body.plain? = some (some (.bytes content)) := by rw [hb]; rfl
        rw [Request.payload_of_plain hplain]
        simp
      | stream a =>
        by_cases ha : a = slot
        · subst ha
          cases hpeek : d.streams.peek a with
          -- an empty slot stays empty
          | none =>
            rw [Request.payload_of_peek_none hb hpeek]
            exact Or.inl ⟨rfl, d.streams.peek_take_self a⟩
          | some chunks =>
            rw [Request.payload_of_peek hb hpeek]
            exact Or.inr ⟨chunks, rfl, by simp, d.streams.peek_take_self a⟩
        -- the stream of another slot may be handed out
        · left
          have hother : (d.streams.take a).2.peek slot = d.streams.peek slot :=
            d.streams.peek_take_of_ne (Ne.symm ha)
          cases hpeek : d.streams.peek a with
          | none =>
            rw [Request.payload_of_peek_none hb hpeek]
            exact ⟨rfl, hother⟩
          | some chunks =>
            rw [Request.payload_of_peek hb hpeek]
            exact ⟨by simp [ha], hother⟩

/-- Nothing is handed out of a slot that is yet to come. -/
lemma handsOut_of_le (deed : Deed) (hslot : d.streams.slots.length ≤ slot) :
    d.handsOut slot deed = [] := by
  cases deed with
  | convert i attempt =>
    cases hr : d.requests[i]? with
    | none => simp [handsOut, hr]
    | some r =>
      rw [handsOut_convert hr]
      split
      · rw [if_neg]
        intro hb
        have hin : r.body.IsIn d.streams := d.held r (List.mem_of_getElem? hr)
        rw [hb] at hin
        exact absurd hin (not_lt.mpr hslot)
      · rfl
  | _ => rfl

/-- Only a new body takes the place of a request. -/
lemma getElem?_step {deed : Deed} (hr : d.requests[i]? = some r)
    (hdeed : ∀ source, deed ≠ .withBody i source) : (d.step deed).requests[i]? = some r := by
  have hi : i < d.requests.length := (List.getElem?_eq_some_iff.mp hr).1
  show (d.requestsAfter deed)[i]? = some r
  unfold requestsAfter
  split
  · split
    · rename_i j source _
      have hne : j ≠ i := by
        rintro rfl
        exact hdeed source rfl
      rw [List.getElem?_set_ne hne, hr]
    · rw [List.getElem?_append_left hi, hr]
  · exact hr

/-! ## Sequences of deeds -/

/-- A slot that is empty stays empty, and nothing is handed out of it. -/
lemma handedOut_of_peek_none (deeds : List Deed) (hslot : slot < d.streams.slots.length)
    (h : d.streams.peek slot = none) :
    d.handedOut slot deeds = [] ∧ (d.after deeds).streams.peek slot = none := by
  induction deeds generalizing d with
  | nil => exact ⟨rfl, h⟩
  | cons deed deeds ih =>
    rcases peek_step deed hslot with ⟨hnone, hpeek⟩ | ⟨chunks, hsome, -, -⟩
    · have hslot' := lt_of_lt_of_le hslot (d.length_streamsAfter deed)
      obtain ⟨hrest, hend⟩ := ih (d := d.step deed) hslot' (hpeek.trans h)
      exact ⟨by rw [handedOut, hnone, hrest, List.nil_append], hend⟩
    · rw [h] at hsome
      cases hsome

/-- A stream stays where it is until it is handed out, whole. -/
lemma handedOut_of_peek (deeds : List Deed) (h : d.streams.peek slot = some chunks) :
    (d.handedOut slot deeds = [] ∧ (d.after deeds).streams.peek slot = some chunks) ∨
    (d.handedOut slot deeds = [some (.chunks chunks)] ∧
      (d.after deeds).streams.peek slot = none) := by
  induction deeds generalizing d with
  | nil => exact Or.inl ⟨rfl, h⟩
  | cons deed deeds ih =>
    have hslot : slot < d.streams.slots.length := Streams.lt_of_peek h
    rcases peek_step deed hslot with ⟨hnone, hpeek⟩ | ⟨chunks', hsome, hout, hpeek⟩
    · rw [handedOut, hnone, List.nil_append]
      exact ih (d := d.step deed) (hpeek.trans h)
    -- the stream goes out now, and what follows finds the slot empty
    · obtain rfl : chunks' = chunks := by
        rw [h, Option.some.injEq] at hsome
        exact hsome.symm
      have hslot' := lt_of_lt_of_le hslot (d.length_streamsAfter deed)
      obtain ⟨hrest, hend⟩ := handedOut_of_peek_none (d := d.step deed) deeds hslot' hpeek
      exact Or.inr ⟨by rw [handedOut, hout, hrest, List.append_nil], hend⟩

/-- Whether the slot is there from the beginning or not: once its stream was handed out it is empty,
and the stream was handed out once. -/
lemma handedOut_ne_nil (deeds : List Deed) (h : d.handedOut slot deeds ≠ []) :
    (d.handedOut slot deeds).length = 1 ∧ (d.after deeds).streams.peek slot = none := by
  induction deeds generalizing d with
  | nil => exact absurd rfl h
  | cons deed deeds ih =>
    by_cases hslot : slot < d.streams.slots.length
    · cases hpeek : d.streams.peek slot with
      | none => exact absurd (handedOut_of_peek_none _ hslot hpeek).1 h
      | some chunks =>
        rcases handedOut_of_peek (deed :: deeds) hpeek with ⟨hnone, -⟩ | ⟨hout, hend⟩
        · exact absurd hnone h
        · exact ⟨by rw [hout]; rfl, hend⟩
    · rw [handedOut, handsOut_of_le deed (not_lt.mp hslot), List.nil_append] at h ⊢
      exact ih (d := d.step deed) h

lemma getElem?_after (deeds : List Deed) (hr : d.requests[i]? = some r)
    (hdeeds : ∀ source, Deed.withBody i source ∉ deeds) :
    (d.after deeds).requests[i]? = some r := by
  induction deeds generalizing d with
  | nil => exact hr
  | cons deed deeds ih =>
    refine ih (d := d.step deed) (getElem?_step hr fun source heq => ?_) fun source hmem =>
      hdeeds source (List.mem_cons_of_mem deed hmem)
    exact hdeeds source (heq ▸ List.mem_cons_self)

/-! ## What a request is good for -/

/-- Every copy of the request for a try can be made, takes nothing away and is the request; and every
conversion gives what there is to send. -/
def Serves (d : Desk) (i : ℕ) (r : Request) (p : Option Payload) : Prop :=
  ∀ attempt,
    d.reply (.rewind i attempt) = .request r ∧
    (d.step (.rewind i attempt)).streams = d.streams ∧
    (d.step (.rewind i attempt)).requests = d.requests ++ [r] ∧
    d.reply (.convert i attempt) = .payload p

/-- Neither a copy for a try nor a conversion can be had, and the refusal names the try. -/
def Refuses (d : Desk) (i : ℕ) : Prop :=
  ∀ attempt,
    d.reply (.rewind i attempt) = .refused (.bodyNotReplayable attempt) ∧
    d.reply (.convert i attempt) = .refused (.bodyNotReplayable attempt)

lemma Serves.of_ok {p : Option Payload} (hr : d.requests[i]? = some r)
    (hrewind : ∀ attempt, r.rewind d.streams attempt = .ok r)
    (hpayload : ∀ attempt, (r.payload d.streams attempt).1 = .ok p) : d.Serves i r p := by
  intro attempt
  have hcopy : d.reply (.rewind i attempt) = .request r := by rw [reply_rewind hr, hrewind]
  refine ⟨hcopy, rfl, ?_, by rw [reply_convert hr, hpayload]⟩
  show d.requestsAfter (.rewind i attempt) = d.requests ++ [r]
  simp only [requestsAfter, hcopy]

lemma serves_of_plain {p : Option Payload} (hr : d.requests[i]? = some r)
    (h : r.body.plain? = some p) : d.Serves i r p :=
  .of_ok hr (Request.rewind_of_plain h d.streams) fun attempt => by
    rw [Request.payload_of_plain h]

lemma serves_of_peek (hr : d.requests[i]? = some r) (hb : r.body = .stream slot)
    (h : d.streams.peek slot = some chunks) : d.Serves i r (some (.chunks chunks)) :=
  .of_ok hr (Request.rewind_of_peek hb h) fun attempt => by rw [Request.payload_of_peek hb h]

lemma refuses_of_peek_none (hr : d.requests[i]? = some r) (hb : r.body = .stream slot)
    (h : d.streams.peek slot = none) : d.Refuses i := by
  intro attempt
  rw [reply_rewind hr, reply_convert hr, Request.rewind_of_peek_none hb h,
    Request.payload_of_peek_none hb h]
  exact ⟨rfl, rfl⟩

/-- A new stream gets a slot that no other request has. -/
lemma reply_withBody_stream (hr : d.requests[i]? = some r) (chunks : List (List UInt8)) :
    ∃ slot, d.reply (.withBody i (.stream chunks)) = .request { r with body := .stream slot } ∧
      (d.step (.withBody i (.stream chunks))).streams.peek slot = some chunks ∧
      ∀ q ∈ d.requests, q.body ≠ .stream slot := by
  refine ⟨(d.streams.put chunks).1, by simp [reply, hr, make], d.streams.peek_put_self chunks, ?_⟩
  intro q hq hb
  have hin : q.body.IsIn d.streams := d.held q hq
  rw [hb] at hin
  exact absurd hin (lt_irrefl _)

/-- What is told of the bodies on a desk when a sequence of deeds has been done: of the streams that
were there before, of those that were made since, and of all other bodies. -/
structure Delivers (d : Desk) (deeds : List Deed) : Prop where
  /-- No stream is handed out twice. -/
  once : ∀ slot, (d.handedOut slot deeds).length ≤ 1
  /-- A stream is handed out whole. -/
  whole : ∀ slot chunks, d.streams.peek slot = some chunks →
    ∀ p ∈ d.handedOut slot deeds, p = some (.chunks chunks)
  /-- Before, every request that shares the stream can be sent. -/
  present : ∀ slot chunks, d.streams.peek slot = some chunks → d.handedOut slot deeds = [] →
    ∀ i r, (d.after deeds).requests[i]? = some r → r.body = .stream slot →
      (d.after deeds).Serves i r (some (.chunks chunks))
  /-- Afterwards none can. -/
  gone : ∀ slot, d.handedOut slot deeds ≠ [] →
    ∀ i r, (d.after deeds).requests[i]? = some r → r.body = .stream slot →
      (d.after deeds).Refuses i
  /-- Nor can one whose stream was gone from the beginning. -/
  spent : ∀ slot, slot < d.streams.slots.length → d.streams.peek slot = none →
    d.handedOut slot deeds = [] ∧
    ∀ i r, (d.after deeds).requests[i]? = some r → r.body = .stream slot →
      (d.after deeds).Refuses i
  /-- Other bodies can be sent at all times. -/
  plain : ∀ i r p, (d.after deeds).requests[i]? = some r → r.body.plain? = some p →
    (d.after deeds).Serves i r p
  /-- A request keeps its body until it is given another. -/
  kept : ∀ i r, d.requests[i]? = some r → (∀ source, Deed.withBody i source ∉ deeds) →
    (d.after deeds).requests[i]? = some r
  /-- A new stream is there and shared with nobody. -/
  fresh : ∀ i r chunks, (d.after deeds).requests[i]? = some r →
    ∃ slot, (d.after deeds).reply (.withBody i (.stream chunks)) =
        .request { r with body := .stream slot } ∧
      ((d.after deeds).step (.withBody i (.stream chunks))).streams.peek slot = some chunks ∧
      ∀ q ∈ (d.after deeds).requests, q.body ≠ .stream slot

/-- **A one-shot body is delivered at most once.**  From any desk, under any sequence of copying,
rewinding, changing bodies and converting them: each stream is handed out once at most, whole;
every request that shares it can be sent until then and none afterwards; and whatever becomes of
the streams, all other bodies can be sent at all times. -/
theorem delivers (d : Desk) (deeds : List Deed) : d.Delivers deeds where
  once := by
    intro slot
    by_cases h : d.handedOut slot deeds = []
    · rw [h]
      exact Nat.zero_le 1
    · exact (handedOut_ne_nil deeds h).1.le
  whole := by
    intro slot chunks hpeek p hp
    rcases handedOut_of_peek deeds hpeek with ⟨hnone, -⟩ | ⟨hout, -⟩
    · rw [hnone] at hp
      cases hp
    · rw [hout] at hp
      exact List.mem_singleton.mp hp
  present := by
    intro slot chunks hpeek hnone i r hr hb
    rcases handedOut_of_peek deeds hpeek with ⟨-, hend⟩ | ⟨hout, -⟩
    · exact serves_of_peek hr hb hend
    · rw [hnone] at hout
      cases hout
  gone := by
    intro slot hout i r hr hb
    exact refuses_of_peek_none hr hb (handedOut_ne_nil deeds hout).2
  spent := by
    intro slot hslot hpeek
    obtain ⟨hnone, hend⟩ := handedOut_of_peek_none deeds hslot hpeek
    exact ⟨hnone, fun i r hr hb => refuses_of_peek_none hr hb hend⟩
  plain := fun i r p hr h => serves_of_plain hr h
  kept := fun i r hr hdeeds => getElem?_after deeds hr hdeeds
  fresh := fun i r chunks hr => reply_withBody_stream hr chunks

end Desk

end QueueClient
