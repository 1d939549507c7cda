/-
# Waiting for a context

Whoever waits for a context and whoever asks whether it is done now and then are told the same,
although the one goes by the first of two waits that is over (`Context.endings`) and the other by
what it is told of the token and the deadline (`Context.reason?`).  This is said in two ways.  On the
clock of a run, the end of the wait is set against the course of the world that nobody waits in
(`World.elapse`): the wait ends at the first instant at which the context is done there.  Polled in
arbitrary worlds, in whatever order cancellations and the clock bring them about, the wait ends in
the first one in which the context is done.
-/
import QueueClient.Proofs.Activity.Safety

namespace QueueClient

/-! ## The course of the world -/

namespace World

/-- The world with the clock at an instant, unless it is past that already. -/
def moveTo (w : World) (t : ℕ) : World := { w with now := max w.now t }

/-- The world at an instant if alarms are all that happens, `l` being those that are to come. -/
def elapseThrough (t : ℕ) : List Alarm → World → World
  | [], w => w.moveTo t
  | a :: rest, w =>
    if Instant.tick a.time ≤ max w.now t then elapseThrough t rest (w.ring a rest)
    else w.moveTo t

/-- The world at an instant if alarms are all that happens; those of that instant have rung. -/
def elapse (w : World) (t : ℕ) : World := elapseThrough t w.alarms w

/-- The clock stands at an instant now, or may do so later: at whole milliseconds. -/
def Shows (w : World) (t : ℕ) : Prop := w.now ≤ t ∧ (t = w.now ∨ Instant.tick t = t)

variable {w v : World} {wake : Wake} {t : ℕ} {a : Alarm} {rest : List Alarm}

lemma elapse_nil (h : w.alarms = []) : w.elapse t = w.moveTo t := by
  rw [elapse, h, elapseThrough]

lemma elapse_ring (h : w.alarms = a :: rest) (ha : Instant.tick a.time ≤ max w.now t) :
    w.elapse t = (w.ring a rest).elapse t := by
  rw [elapse, h, elapseThrough, if_pos ha]
  rfl

lemma elapse_of_lt (h : w.alarms = a :: rest) (ha : max w.now t < Instant.tick a.time) :
    w.elapse t = w.moveTo t := by
  rw [elapse, h, elapseThrough, if_neg (not_le.mpr ha)]

/-- Until an alarm rings the clock moves on, and nothing else happens. -/
lemma elapse_eq_moveTo (h : ∀ a rest, w.alarms = a :: rest → max w.now t < Instant.tick a.time) :
    w.elapse t = w.moveTo t := by
  cases hl : w.alarms with
  | nil => exact elapse_nil hl
  | cons a rest => exact elapse_of_lt hl (h a rest hl)

/-- The clock does not go back, and tokens stay cancelled. -/
lemma le_elapse (w : World) (t : ℕ) :
    w.now ≤ (w.elapse t).now ∧ w.forest.marked <:+ (w.elapse t).forest.marked := by
  induction hl : w.alarms generalizing w with
  | nil =>
    rw [elapse_nil hl]
    exact ⟨le_max_left _ _, List.suffix_refl _⟩
  | cons a rest ih =>
    rcases le_or_gt (Instant.tick a.time) (max w.now t) with ha | ha
    · obtain ⟨hnow, hmarked⟩ := ih (w.ring a rest) rfl
      have hring := passes_ring hl
      rw [elapse_ring hl ha]
      exact ⟨hring.now_le.trans hnow, hring.marked.trans hmarked⟩
    · rw [elapse_of_lt hl ha]
      exact ⟨le_max_left _ _, List.suffix_refl _⟩

/-- Before the tick of its timer, a wait is over only if it has been before. -/
lemma not_isDueIn_moveTo (hw : wake.isDueIn w = false) (ht : w.Shows t)
    (htimer : ∀ s, wake.timer = some s → t < Instant.tick s) :
    wake.isDueIn (w.moveTo t) = false := by
  rw [Wake.isDueIn, Wake.isDue, Bool.or_eq_false_iff] at hw ⊢
  refine ⟨?_, hw.2⟩
  cases hs : wake.timer with
  | none => rfl
  | some s =>
    have hnow : w.now < s := by simpa [hs] using hw.1
    have hlt := htimer s hs
    have hstands : (w.moveTo t).now = t := max_eq_right ht.1
    simp only [hstands, decide_eq_false_iff_not, not_le]
    rcases ht.2 with rfl | hwhole
    · exact hnow
    · by_contra hle
      have := Instant.tick_mono (not_lt.mp hle)
      omega

lemma Waits.not_isDueIn_elapse {ws : List World} {v? : Option World} (hwaits : Waits wake w ws v?)
    (ht : w.Shows t) (h : ∀ v, v? = some v → t < v.now) : wake.isDueIn (w.elapse t) = false := by
  induction hwaits with
  | ends => exact absurd (h _ rfl) (not_lt.mpr ht.1)
  | fires hdue timer alarms =>
    have hlt := (lt_max_iff.mp (h _ rfl)).resolve_left (not_lt.mpr ht.1)
    rw [elapse_eq_moveTo fun a rest ha =>
      (max_eq_right ht.1).trans_lt (hlt.trans_le (alarms a rest ha).tick_le)]
    refine not_isDueIn_moveTo hdue ht fun s hs => ?_
    cases timer.symm.trans hs
    exact hlt
  | @rings w a rest _ _ hdue timer alarms _ ih =>
    rcases le_or_gt (Instant.tick a.time) (max w.now t) with hle | hlt
    · rw [elapse_ring alarms hle]
      rw [max_eq_right ht.1] at hle
      refine ih ⟨max_le ht.1 hle, ht.2.imp_left fun heq => ?_⟩ h
      exact heq.trans (max_eq_left (heq ▸ hle)).symm
    · rw [elapse_of_lt alarms hlt]
      rw [max_eq_right ht.1] at hlt
      exact not_isDueIn_moveTo hdue ht fun s hs =>
        hlt.trans_le (Alarm.tick_le_of_not_isAfter (timer s hs))
  | lasts hdue timer alarms =>
    rw [elapse_nil alarms]
    exact not_isDueIn_moveTo hdue ht fun s hs => nomatch timer.symm.trans hs

/-- **A wait is not over at an instant before its end.** -/
theorem not_isDueIn_elapse (ht : w.Shows t) (h : ∀ v, w.sleep wake = some v → t < v.now) :
    wake.isDueIn (w.elapse t) = false :=
  (w.waits wake).not_isDueIn_elapse ht h

lemma moveTo_advanceTo {s : ℕ} (h : (w.advanceTo s).now ≤ t) :
    (w.advanceTo s).moveTo t = w.moveTo t := by
  have hw : w.now ≤ t := (le_max_left _ _).trans h
  rw [moveTo, moveTo, max_eq_right h, max_eq_right hw]
  rfl

lemma ring_advanceTo {s : ℕ} (h : Instant.tick s ≤ Instant.tick a.time) :
    (w.advanceTo s).ring a rest = w.ring a rest := by
  have hnow : max (max w.now (Instant.tick s)) (Instant.tick a.time) =
      max w.now (Instant.tick a.time) := by
    rw [max_assoc, max_eq_right h]
  simp only [ring, advanceTo, hnow]

/-- What a timer moves the clock on for would have come about by itself. -/
lemma elapse_advanceTo {s : ℕ} (h : ∀ a rest, w.alarms = a :: rest → a.IsAfter s)
    (ht : (w.advanceTo s).now ≤ t) : (w.advanceTo s).elapse t = w.elapse t := by
  have hw : w.now ≤ t := (le_max_left _ _).trans ht
  cases hl : w.alarms with
  | nil => rw [elapse_nil hl, elapse_nil (w := w.advanceTo s) hl, moveTo_advanceTo ht]
  | cons a rest =>
    rcases le_or_gt (Instant.tick a.time) t with hle | hlt
    · rw [elapse_ring hl (hle.trans (le_max_right _ _)),
        elapse_ring (w := w.advanceTo s) hl (hle.trans (le_max_right _ _)),
        ring_advanceTo (h a rest hl).tick_le]
    · rw [elapse_of_lt hl (max_lt (hw.trans_lt hlt) hlt),
        elapse_of_lt (w := w.advanceTo s) hl (max_lt (ht.trans_lt hlt) hlt), moveTo_advanceTo ht]

lemma Waits.elapse_eq {ws : List World} {v? : Option World} (hwaits : Waits wake w ws v?)
    (h : v? = some v) (ht : v.now ≤ t) : v.elapse t = w.elapse t := by
  induction hwaits with
  | ends =>
    cases h
    rfl
  | fires _ _ alarms =>
    cases h
    exact elapse_advanceTo alarms ht
  | @rings w a rest _ _ _ _ alarms goesOn ih =>
    have hle : Instant.tick a.time ≤ t := by
      subst h
      exact (le_max_right _ _).trans ((goesOn.passes goesOn.mem_end).now_le.trans ht)
    rw [elapse_ring alarms (hle.trans (le_max_right _ _))]
    exact ih h
  | lasts => cases h

/-- **The end of a wait is on the course of the world**: from there on all is as if nobody had
waited. -/
theorem elapse_of_sleep (h : w.sleep wake = some v) (ht : v.now ≤ t) :
    v.elapse t = w.elapse t :=
  (w.waits wake).elapse_eq h ht

end World

/-! ## Polling -/

namespace Activity

variable {α : Type} {c : Context} {w v : World} {r : CancelReason}

/-- What an activity is polled to, and the world then: it goes on until it would have to wait. -/
def poll : Activity α → World → Activity α × World
  | done a, w => (done a, w)
  | act a k, w => (k (w.perform a).1).poll (w.perform a).2
  | wait wake k, w => if wake.isDueIn w then k.poll w else (wait wake k, w)
  | never, w => (never, w)
  | abort, w => (abort, w)

/-- What an activity comes to that is polled in some worlds, one after the other; `none` if it still
waits after the last one. -/
def pollThrough (p : Activity α) : List World → Option α
  | [] => none
  | w :: ws =>
    match (p.poll w).1 with
    | done a => some a
    | q => q.pollThrough ws

/-- **Polling is part of a run**: a run goes on from wherever polling has come. -/
theorem run_poll (p : Activity α) (w : World) : (p.poll w).1.run (p.poll w).2 = p.run w := by
  induction p generalizing w with
  | done a => rfl
  | act a k ih => exact ih _ _
  | wait wake k ih =>
    rw [poll]
    split
    · rename_i hdue
      rw [ih w, run_wait_of_some (World.sleep_of_mem_pause (World.mem_pause_self w wake) hdue)]
    · rfl
  | never | abort => rfl

/-- The wait for a context that is not done yet. -/
def awaiting (c : Context) : Activity CancelReason :=
  wait (.ofContext c) (act (.firstDue c.endings) fun
    | some r => done r
    | none => never)

lemma poll_endings (c : Context) (k : Option CancelReason → Activity α) (w : World) :
    (act (.firstDue c.endings) k).poll w = (k (c.reasonIn w)).poll w := by
  rw [poll, World.perform_endings]

lemma poll_awaitDone_of_some (h : c.reasonIn w = some r) :
    ((awaitDone c).poll w).1 = done r := by
  rw [awaitDone, poll_endings, h]
  rfl

lemma poll_awaitDone_of_none (h : c.reasonIn w = none) :
    ((awaitDone c).poll w).1 = awaiting c := by
  have hdue : (Wake.ofContext c).isDueIn w = false := by
    rw [Wake.isDueIn_ofContext, h]
    rfl
  rw [awaitDone, poll_endings, h]
  simp only [poll, hdue]
  rfl

lemma poll_awaiting_of_some (h : c.reasonIn w = some r) :
    ((awaiting c).poll w).1 = done r := by
  have hdue : (Wake.ofContext c).isDueIn w = true := by
    rw [Wake.isDueIn_ofContext, h]
    rfl
  rw [awaiting, poll, if_pos hdue, poll_endings, h]
  rfl

lemma poll_awaiting_of_none (h : c.reasonIn w = none) :
    ((awaiting c).poll w).1 = awaiting c := by
  have hdue : ¬ (Wake.ofContext c).isDueIn w = true := by
    rw [Wake.isDueIn_ofContext, h]
    exact Bool.false_ne_true
  rw [awaiting, poll, if_neg hdue]

lemma pollThrough_awaiting (c : Context) (ws : List World) :
    (awaiting c).pollThrough ws = ws.findSome? c.reasonIn := by
  induction ws with
  | nil => rfl
  | cons w ws ih =>
    cases h : c.reasonIn w with
    | none => rw [pollThrough, poll_awaiting_of_none h, List.findSome?_cons, h]; exact ih
    | some r => rw [pollThrough, poll_awaiting_of_some h, List.findSome?_cons, h]

/-- **Polled in some worlds, a wait for a context ends in the first one in which the context is
done**, and says why it is done there. -/
theorem pollThrough_awaitDone (c : Context) (ws : List World) :
    (awaitDone c).pollThrough ws = ws.findSome? c.reasonIn := by
  cases ws with
  | nil => rfl
  | cons w ws =>
    cases h : c.reasonIn w with
    | none =>
      rw [pollThrough, poll_awaitDone_of_none h, List.findSome?_cons, h]
      exact pollThrough_awaiting c ws
    | some r => rw [pollThrough, poll_awaitDone_of_some h, List.findSome?_cons, h]

/-! ## Running -/

/-- A wait for a context is a wait for what makes it done. -/
lemma run_awaitDone (c : Context) (w : World) :
    (awaitDone c).run w =
      match w.sleep (.ofContext c) with
      | some v => (c.reasonIn v, v)
      | none => (none, w) := by
  have hask : ∀ (k : Option CancelReason → Activity CancelReason) (v : World),
      (act (.firstDue c.endings) k).run v = (k (c.reasonIn v)).run v := fun k v => by
    rw [run_act, World.perform_endings]
  rw [awaitDone, hask]
  cases hw : c.reasonIn w with
  | some r =>
    have hdue : (Wake.ofContext c).isDueIn w = true := by
      rw [Wake.isDueIn_ofContext, hw]
      rfl
    rw [World.sleep_of_mem_pause (World.mem_pause_self w _) hdue]
    simp only [hw, run_done]
  | none =>
    cases hs : w.sleep (.ofContext c) with
    | none => exact run_wait_of_none hs _
    | some v =>
      have hdue := World.isDueIn_of_sleep hs
      rw [Wake.isDueIn_ofContext, Option.isSome_iff_exists] at hdue
      obtain ⟨r, hr⟩ := hdue
      simp only [run_wait_of_some hs, hask, hr, run_done]

end Activity

/-! ## Agreement -/

lemma Duration.ofNanos_eq_zero_iff {n : ℕ} : ofNanos n = zero ↔ n = 0 := by
  rcases lt_or_ge n (UInt64.size * 1_000_000_000) with hn | hn
  · rw [ofNanos, dif_pos hn, zero, Duration.mk.injEq]
  · have hlong : ofNanos n = longest := dif_neg (not_lt.mpr hn)
    have hne : longest ≠ zero := by decide
    have hpos : n ≠ 0 := by
      have : 0 < UInt64.size * 1_000_000_000 := by decide
      omega
    exact iff_of_false (hlong ▸ hne) hpos

namespace Context

open Activity

variable {c : Context} {w v : World} {r : CancelReason}

/-- Waiting for a context and asking for its state agree. -/
structure Agrees (c : Context) : Prop where
  /-- A wait ends when the context is done, for the reason for which it is done.  This is at an
  instant on the course of the world at which the context is done, and it is not done at any
  instant before that. -/
  resolves : ∀ w v r, (awaitDone c).run w = (some r, v) →
    c.reasonIn v = some r ∧ w.Shows v.now ∧ v.elapse v.now = w.elapse v.now ∧
      (c.reasonIn (w.elapse v.now)).isSome ∧
      ∀ t, w.Shows t → t < v.now → c.reasonIn (w.elapse t) = none
  /-- A wait does not end exactly if the context is done at no instant. -/
  pends : ∀ w, ((awaitDone c).run w).1 = none ↔ ∀ t, w.Shows t → c.reasonIn (w.elapse t) = none
  /-- Polled in any worlds, a wait ends in the first of them in which the context is done. -/
  polled : ∀ ws, (awaitDone c).pollThrough ws = ws.findSome? c.reasonIn
  /-- No time is left exactly if the deadline has come. -/
  remaining_eq_zero : ∀ now, c.remaining now = some .zero ↔ c.isOverdue now = true

lemma isSome_reasonIn_elapse (h : (c.reasonIn w).isSome) (t : ℕ) :
    (c.reasonIn (w.elapse t)).isSome :=
  have hle := w.le_elapse t
  isSome_reason?_mono hle.2 hle.1 h

lemma reasonIn_elapse_eq_none {t : ℕ} (ht : w.Shows t)
    (h : ∀ v, w.sleep (.ofContext c) = some v → t < v.now) : c.reasonIn (w.elapse t) = none := by
  have hdue := World.not_isDueIn_elapse ht h
  rwa [Wake.isDueIn_ofContext, Option.isSome_eq_false_iff, Option.isNone_iff_eq_none] at hdue

/-- A wait that ends does so at the first instant at which the context is done. -/
lemma resolves_of_sleep (h : w.sleep (.ofContext c) = some v) :
    w.Shows v.now ∧ v.elapse v.now = w.elapse v.now ∧ (c.reasonIn (w.elapse v.now)).isSome ∧
      ∀ t, w.Shows t → t < v.now → c.reasonIn (w.elapse t) = none := by
  have hpasses := World.passes_of_sleep h
  have helapse := World.elapse_of_sleep h (le_refl _)
  have hdone : (c.reasonIn v).isSome := by
    rw [← Wake.isDueIn_ofContext]
    exact World.isDueIn_of_sleep h
  refine ⟨⟨hpasses.now_le, hpasses.ticks⟩, helapse, ?_, fun t ht hlt => ?_⟩
  · rw [← helapse]
    exact isSome_reasonIn_elapse hdone v.now
  · refine reasonIn_elapse_eq_none ht fun v' hv' => ?_
    cases h.symm.trans hv'
    exact hlt

lemma remaining_eq_zero_iff (c : Context) (now : ℕ) :
    c.remaining now = some .zero ↔ c.isOverdue now = true := by
  unfold remaining isOverdue
  cases c.deadline with
  | none => simp
  | some d =>
    rw [Option.map_some, Option.some.injEq, Instant.since, Duration.ofNanos_eq_zero_iff,
      Nat.sub_eq_zero_iff_le, decide_eq_true_iff]

/-- **Waiting for a context and asking for its state agree**, for all contexts and whatever
happens. -/
theorem agrees (c : Context) : c.Agrees where
  resolves w v r hrun := by
    rw [run_awaitDone] at hrun
    cases hs : w.sleep (.ofContext c) with
    | none =>
      rw [hs] at hrun
      exact nomatch congrArg Prod.fst hrun
    | some v' =>
      rw [hs] at hrun
      obtain ⟨hr, rfl⟩ := Prod.mk.inj hrun
      exact ⟨hr, resolves_of_sleep hs⟩
  pends w := by
    rw [run_awaitDone]
    cases hs : w.sleep (.ofContext c) with
    | none =>
      exact iff_of_true rfl fun t ht => reasonIn_elapse_eq_none ht fun v hv =>
        nomatch hs.symm.trans hv
    | some v =>
      obtain ⟨hshows, -, hdone, -⟩ := resolves_of_sleep hs
      refine iff_of_false (fun hnone => ?_) fun hnever => ?_
      · have hdue := World.isDueIn_of_sleep hs
        rw [Wake.isDueIn_ofContext] at hdue
        exact Option.isSome_iff_ne_none.mp hdue hnone
      · exact Option.isSome_iff_ne_none.mp hdone (hnever v.now hshows)
  polled := pollThrough_awaitDone c
  remaining_eq_zero := c.remaining_eq_zero_iff

/-- A deadline between two whole milliseconds ends a wait at the later one. -/
example :
    ((awaitDone ⟨⟨[0]⟩, some 500_000, 0⟩).run (.start [])).1 = some .deadlineExceeded ∧
      ((awaitDone ⟨⟨[0]⟩, some 500_000, 0⟩).run (.start [])).2.now = 1_000_000 := by
  decide

/-- A cancellation at the millisecond of the deadline ends a wait before the deadline does or after
it, as it comes. -/
example :
    ((awaitDone ⟨⟨[0]⟩, some 500_000, 0⟩).run
        { World.start [] with alarms := [⟨1_000_000, ⟨[0]⟩, true⟩] }).1 = some .cancelled ∧
      ((awaitDone ⟨⟨[0]⟩, some 500_000, 0⟩).run
        { World.start [] with alarms := [⟨1_000_000, ⟨[0]⟩, false⟩] }).1 =
          some .deadlineExceeded := by
  decide

end Context

end QueueClient
