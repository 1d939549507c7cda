/-
# What waiting does to the world

While a run waits, the clock goes on and alarms ring, and nothing else changes.  The worlds of
a wait, from its beginning to its end, are listed by `World.pause`: the first is the one in which
the wait begins, then comes one for each alarm that rings, and the timer, if it is what ends the
wait, adds the last.  What can happen next in a wait is said once (`World.Waits`), and all that is
known about the worlds of a wait and about its end is shown along that.
-/
import Mathlib.Tactic
import QueueClient.Activity.World

namespace QueueClient

/-- Why a context is done in a world, if it is. -/
abbrev Context.reasonIn (c : Context) (w : World) : Option CancelReason :=
  c.reason? w.forest w.now

/-- Whether a wait is over in a world. -/
abbrev Wake.isDueIn (wake : Wake) (w : World) : Bool := wake.isDue w.forest w.now

namespace Wake

lemma isDue_or (a b : Wake) (f : TokenForest) (now : ℕ) :
    (a.or b).isDue f now = (a.isDue f now || b.isDue f now) := by
  rcases a with ⟨_ | s, ts⟩ <;> rcases b with ⟨_ | t, us⟩ <;>
    simp [Wake.or, Wake.isDue, earlier, Bool.or_assoc, Bool.or_left_comm,
      Bool.decide_or]

lemma or_assoc (a b c : Wake) : (a.or b).or c = a.or (b.or c) := by
  rcases a with ⟨_ | r, ts⟩ <;> rcases b with ⟨_ | s, us⟩ <;> rcases c with ⟨_ | t, vs⟩ <;>
    simp [Wake.or, earlier, min_assoc]

lemma earlier_eq_some {a b : Option ℕ} {m : ℕ} (h : earlier a b = some m) :
    (a = some m ∨ b = some m) ∧ ∀ s, a = some s → m ≤ s := by
  rcases a with _ | s <;> rcases b with _ | t <;> simp_all [earlier]
  omega

lemma earlier_eq_none {a b : Option ℕ} (h : earlier a b = none) : a = none := by
  rcases a with _ | s <;> rcases b with _ | t <;> simp_all [earlier]

lemma earlier_some_ne_none (a : Option ℕ) (t : ℕ) : earlier a (some t) ≠ none := by
  rcases a with _ | s <;> simp [earlier]

lemma le_of_earlier_some {a : Option ℕ} {t m : ℕ} (h : earlier a (some t) = some m) : m ≤ t := by
  rcases a with _ | s <;> simp_all [earlier]
  omega

lemma isDueIn_ofTimer {t : ℕ} {w : World} : (ofTimer t).isDueIn w = true ↔ t ≤ w.now := by
  simp [ofTimer, isDue]

/-- What makes a context done makes a wait for it end. -/
lemma isDue_ofContext (c : Context) (f : TokenForest) (now : ℕ) :
    (ofContext c).isDue f now = (c.reason? f now).isSome := by
  rcases c with ⟨t, _ | d, n⟩ <;> by_cases ht : f.isCancelled t = true <;>
    simp [ofContext, isDue, Context.reason?, Context.isOverdue, ht]
  by_cases hd : d ≤ now <;> simp [hd]

lemma isDueIn_or (a b : Wake) (w : World) :
    (a.or b).isDueIn w = (a.isDueIn w || b.isDueIn w) :=
  isDue_or a b w.forest w.now

lemma isDueIn_ofContext (c : Context) (w : World) :
    (ofContext c).isDueIn w = (c.reasonIn w).isSome :=
  isDue_ofContext c w.forest w.now

end Wake

/-- **Waiting for a context and asking it agree** on why it is done: the first of its endings that
has come stands for the reason that the context gives. -/
@[simp] lemma World.perform_endings (c : Context) (w : World) :
    w.perform (.firstDue c.endings) = (c.reasonIn w, w) := by
  rcases c with ⟨t, _ | d, n⟩ <;> by_cases ht : w.forest.isCancelled t = true <;>
    simp [perform, Context.endings, Wake.ofToken, Wake.ofTimer, Wake.isDue, Context.reason?,
      Context.isOverdue, ht]

namespace Instant

lemma tick_mono {s t : ℕ} (h : s ≤ t) : tick s ≤ tick t := by
  unfold tick
  exact Nat.mul_le_mul_right _ (Nat.div_le_div_right (by omega))

lemma tick_tick (t : ℕ) : tick (tick t) = tick t := by
  unfold tick
  omega

end Instant

namespace Alarm

variable {a : Alarm} {s t : ℕ}

lemma IsAfter.tick_le (h : a.IsAfter t) : Instant.tick t ≤ Instant.tick a.time := by
  rcases h with h | h
  · exact h.le
  · exact h.1.le

lemma tick_le_of_not_isAfter (h : ¬a.IsAfter t) : Instant.tick a.time ≤ Instant.tick t := by
  rw [IsAfter, not_or] at h
  exact not_lt.mp h.1

/-- An alarm that comes after a timer comes after all earlier ones. -/
lemma IsAfter.anti (h : a.IsAfter t) (hst : Instant.tick s ≤ Instant.tick t) : a.IsAfter s := by
  rcases h with h | ⟨heq, hlast⟩
  · exact Or.inl (hst.trans_lt h)
  · rcases hst.lt_or_eq with hlt | hsame
    · exact Or.inl (hlt.trans_eq heq)
    · exact Or.inr ⟨hsame.trans heq, hlast⟩

end Alarm

namespace TokenForest

/-- A token stays cancelled when more tokens are marked. -/
lemma isCancelled_mono {f g : TokenForest} {t : Token} (h : f.marked <:+ g.marked)
    (ht : f.isCancelled t = true) : g.isCancelled t = true := by
  rw [isCancelled_iff] at ht ⊢
  obtain ⟨a, ha, hat⟩ := ht
  exact ⟨a, h.subset ha, hat⟩

end TokenForest

namespace World

/-- What a wait may change: the clock goes on to a whole millisecond, and alarms ring in their
order, each of which marks its token. -/
structure Passes (w v : World) : Prop where
  now_le : w.now ≤ v.now
  ticks : v.now = w.now ∨ Instant.tick v.now = v.now
  marked : w.forest.marked <:+ v.forest.marked
  alarms : v.alarms <:+ w.alarms
  rest : v = { w with now := v.now, forest := v.forest, alarms := v.alarms }

namespace Passes

lemma refl (w : World) : w.Passes w :=
  ⟨le_refl _, Or.inl rfl, List.suffix_refl _, List.suffix_refl _, rfl⟩

lemma trans {u v w : World} (huv : u.Passes v) (hvw : v.Passes w) : u.Passes w := by
  refine ⟨huv.now_le.trans hvw.now_le, ?_, huv.marked.trans hvw.marked,
    hvw.alarms.trans huv.alarms, ?_⟩
  · rcases hvw.ticks with h | h
    · rw [h]
      exact huv.ticks
    · exact Or.inr h
  · have h := hvw.rest
    rw [huv.rest] at h
    exact h

end Passes

/-- The world after an alarm that was the first to come. -/
def ring (w : World) (a : Alarm) (rest : List Alarm) : World :=
  { w.advanceTo a.time with forest := w.forest.cancel a.token, alarms := rest }

lemma ticks_advanceTo (w : World) (t : ℕ) :
    (w.advanceTo t).now = w.now ∨ Instant.tick (w.advanceTo t).now = (w.advanceTo t).now := by
  rw [advanceTo]
  rcases le_total w.now (Instant.tick t) with h | h
  · exact Or.inr (by rw [max_eq_right h, Instant.tick_tick])
  · exact Or.inl (max_eq_left h)

lemma passes_advanceTo (w : World) (t : ℕ) : w.Passes (w.advanceTo t) :=
  ⟨le_max_left _ _, ticks_advanceTo w t, List.suffix_refl _, List.suffix_refl _, rfl⟩

lemma passes_ring {w : World} {a : Alarm} {rest : List Alarm} (h : w.alarms = a :: rest) :
    w.Passes (w.ring a rest) :=
  ⟨le_max_left _ _, ticks_advanceTo w a.time, List.suffix_cons _ _,
    by rw [h]; exact List.suffix_cons _ _, rfl⟩

/-- The worlds of a wait that `alarms` may interrupt. -/
def pauseThrough (wake : Wake) : List Alarm → World → List World
  | [], w =>
    w :: (if wake.isDueIn w then [] else (wake.timer.map w.advanceTo).toList)
  | a :: rest, w =>
    w ::
      (if wake.isDueIn w then []
      else
        match wake.timer with
        | some t =>
          if a.IsAfter t then [w.advanceTo t]
          else pauseThrough wake rest (w.ring a rest)
        | none => pauseThrough wake rest (w.ring a rest))

/-- The worlds of a wait, from its beginning to its end. -/
def pause (w : World) (wake : Wake) : List World := pauseThrough wake w.alarms w

/-- A wait looks at the alarms that are to come only. -/
lemma sleepThrough_alarms (wake : Wake) (l m : List Alarm) (w : World) :
    sleepThrough wake { w with alarms := m } l = sleepThrough wake w l := by
  induction l generalizing w with
  | nil => rfl
  | cons a rest ih =>
    simp only [sleepThrough]
    split
    · rfl
    · split
      · split
        · rfl
        · exact ih { w.advanceTo a.time with forest := w.forest.cancel a.token }
      · exact ih { w.advanceTo a.time with forest := w.forest.cancel a.token }

/-- So it goes on in the world after an alarm. -/
lemma sleepThrough_ring (wake : Wake) (w : World) (a : Alarm) (rest : List Alarm) :
    sleepThrough wake { w.advanceTo a.time with forest := w.forest.cancel a.token } rest =
      sleepThrough wake (w.ring a rest) rest :=
  (sleepThrough_alarms wake rest rest
    { w.advanceTo a.time with forest := w.forest.cancel a.token }).symm

lemma isDueIn_advanceTo {wake : Wake} {t : ℕ} (h : wake.timer = some t) (w : World) :
    wake.isDueIn (w.advanceTo t) = true := by
  have hle : t ≤ (w.advanceTo t).now := (Instant.le_tick t).trans (le_max_right _ _)
  simp [Wake.isDueIn, Wake.isDue, h, hle]

/-! ## How a wait goes -/

/-- How a wait goes that begins in a world: the worlds that it passes, and the one in which it ends,
if it does. -/
inductive Waits (wake : Wake) : World → List World → Option World → Prop where
  /-- It is over. -/
  | ends {w : World} (due : wake.isDueIn w = true) : Waits wake w [w] (some w)
  /-- Its timer goes off before any alarm. -/
  | fires {w : World} {t : ℕ} (waits : wake.isDueIn w = false) (timer : wake.timer = some t)
      (alarms : ∀ a rest, w.alarms = a :: rest → a.IsAfter t) :
      Waits wake w [w, w.advanceTo t] (some (w.advanceTo t))
  /-- An alarm rings before its timer goes off. -/
  | rings {w : World} {a : Alarm} {rest : List Alarm} {ws : List World} {v? : Option World}
      (waits : wake.isDueIn w = false) (timer : ∀ t, wake.timer = some t → ¬a.IsAfter t)
      (alarms : w.alarms = a :: rest) (goesOn : Waits wake (w.ring a rest) ws v?) :
      Waits wake w (w :: ws) v?
  /-- Nothing is to come. -/
  | lasts {w : World} (waits : wake.isDueIn w = false) (timer : wake.timer = none)
      (alarms : w.alarms = []) : Waits wake w [w] none

/-- **The worlds of a wait and its end belong to one walk over the alarms.** -/
theorem waits (w : World) (wake : Wake) : Waits wake w (w.pause wake) (w.sleep wake) := by
  rw [pause, sleep]
  induction hl : w.alarms generalizing w with
  | nil =>
    have hw : ({ w with alarms := [] } : World) = w := by rw [← hl]
    rw [pauseThrough, sleepThrough, hw]
    by_cases hdue : wake.isDueIn w = true
    · rw [if_pos hdue, if_pos hdue]
      exact .ends hdue
    · rw [if_neg hdue, if_neg hdue]
      rw [Bool.not_eq_true] at hdue
      cases ht : wake.timer with
      | none => exact .lasts hdue ht hl
      | some t => exact .fires hdue ht fun a rest h => nomatch hl.symm.trans h
  | cons a rest ih =>
    have hw : ({ w with alarms := a :: rest } : World) = w := by rw [← hl]
    have hring := ih (w.ring a rest) rfl
    rw [pauseThrough, sleepThrough, hw, sleepThrough_ring]
    by_cases hdue : wake.isDueIn w = true
    · rw [if_pos hdue, if_pos hdue]
      exact .ends hdue
    · rw [if_neg hdue, if_neg hdue]
      rw [Bool.not_eq_true] at hdue
      cases ht : wake.timer with
      | none => exact .rings hdue (fun t h => nomatch ht.symm.trans h) hl hring
      | some t =>
        by_cases hafter : a.IsAfter t
        · simp only [if_pos hafter]
          refine .fires hdue ht fun a' rest' h => ?_
          cases hl.symm.trans h
          exact hafter
        · simp only [if_neg hafter]
          refine .rings hdue (fun t' h => ?_) hl hring
          cases ht.symm.trans h
          exact hafter

namespace Waits

variable {wake : Wake} {w v u : World} {ws ws' : List World} {v? v?' : Option World}

/-- A wait goes in one way only. -/
lemma unique (h : Waits wake w ws v?) (h' : Waits wake w ws' v?') : ws = ws' ∧ v? = v?' := by
  induction h generalizing ws' v?' with
  | ends due =>
    cases h' with
    | ends => exact ⟨rfl, rfl⟩
    | fires waits | rings waits | lasts waits => exact absurd due (by simp [waits])
  | fires waits timer alarms =>
    cases h' with
    | ends due => exact absurd due (by simp [waits])
    | fires _ timer' =>
      cases timer.symm.trans timer'
      exact ⟨rfl, rfl⟩
    | rings _ timer' alarms' => exact absurd (alarms _ _ alarms') (timer' _ timer)
    | lasts _ timer' => cases timer.symm.trans timer'
  | rings waits timer alarms _ ih =>
    cases h' with
    | ends due => exact absurd due (by simp [waits])
    | fires _ timer' alarms' => exact absurd (alarms' _ _ alarms) (timer _ timer')
    | rings _ _ alarms' goesOn =>
      cases alarms.symm.trans alarms'
      obtain ⟨rfl, rfl⟩ := ih goesOn
      exact ⟨rfl, rfl⟩
    | lasts _ _ alarms' => cases alarms.symm.trans alarms'
  | lasts waits timer alarms =>
    cases h' with
    | ends due => exact absurd due (by simp [waits])
    | fires _ timer' => cases timer.symm.trans timer'
    | rings _ _ alarms' => cases alarms.symm.trans alarms'
    | lasts => exact ⟨rfl, rfl⟩

lemma pause_eq (h : Waits wake w ws v?) : w.pause wake = ws := ((w.waits wake).unique h).1

lemma sleep_eq (h : Waits wake w ws v?) : w.sleep wake = v? := ((w.waits wake).unique h).2

lemma mem_self (h : Waits wake w ws v?) : w ∈ ws := by
  cases h <;> exact List.mem_cons_self

/-- A wait ends in the first of its worlds in which something is due. -/
lemma find?_eq (h : Waits wake w ws v?) : ws.find? wake.isDueIn = v? := by
  induction h with
  | ends due => rw [List.find?_cons_of_pos due]
  | fires waits timer =>
    rw [List.find?_cons_of_neg (by simp [waits]), List.find?_cons_of_pos (isDueIn_advanceTo timer _)]
  | rings waits _ _ _ ih => rw [List.find?_cons_of_neg (by simp [waits]), ih]
  | lasts waits => rw [List.find?_cons_of_neg (by simp [waits]), List.find?_nil]

lemma passes (h : Waits wake w ws v?) (hv : v ∈ ws) : w.Passes v := by
  induction h with
  | ends | lasts =>
    rw [List.mem_singleton.mp hv]
    exact Passes.refl _
  | fires =>
    rcases List.mem_cons.mp hv with rfl | hv
    · exact Passes.refl _
    · rw [List.mem_singleton.mp hv]
      exact passes_advanceTo _ _
  | rings _ _ alarms _ ih =>
    rcases List.mem_cons.mp hv with rfl | hv
    · exact Passes.refl _
    · exact (passes_ring alarms).trans (ih hv)

lemma mem_end (h : Waits wake w ws (some v)) : v ∈ ws := List.mem_of_find?_eq_some h.find?_eq

/-- The worlds of a wait come before its end. -/
lemma passes_end (h : Waits wake w ws v?) (hv : v? = some v) (hu : u ∈ ws) : u.Passes v := by
  induction h with
  | ends =>
    cases hv
    rw [List.mem_singleton.mp hu]
    exact Passes.refl _
  | fires =>
    cases hv
    rcases List.mem_cons.mp hu with rfl | hu
    · exact passes_advanceTo _ _
    · rw [List.mem_singleton.mp hu]
      exact Passes.refl _
  | rings _ _ alarms goesOn ih =>
    rcases List.mem_cons.mp hu with rfl | hu
    · subst hv
      exact (passes_ring alarms).trans (goesOn.passes goesOn.mem_end)
    · exact ih hv hu
  | lasts => cases hv

/-- As soon as something is due the wait is over. -/
lemma eq_some_of_mem (h : Waits wake w ws v?) (hv : v ∈ ws) (hdue : wake.isDueIn v = true) :
    v? = some v := by
  induction h with
  | ends => rw [List.mem_singleton.mp hv]
  | fires waits =>
    rcases List.mem_cons.mp hv with rfl | hv
    · exact absurd hdue (by simp [waits])
    · rw [List.mem_singleton.mp hv]
  | rings waits _ _ _ ih =>
    rcases List.mem_cons.mp hv with rfl | hv
    · exact absurd hdue (by simp [waits])
    · exact ih hv
  | lasts waits =>
    rw [List.mem_singleton.mp hv] at hdue
    exact absurd hdue (by simp [waits])

/-- No wait outlasts its timer. -/
lemma now_le (h : Waits wake w ws v?) {t : ℕ} (ht : wake.timer = some t) (hv : v ∈ ws) :
    v.now ≤ max w.now (Instant.tick t) := by
  induction h with
  | ends | lasts =>
    rw [List.mem_singleton.mp hv]
    exact le_max_left _ _
  | fires _ timer =>
    cases ht.symm.trans timer
    rcases List.mem_cons.mp hv with rfl | hv
    · exact le_max_left _ _
    · rw [List.mem_singleton.mp hv]
      exact le_rfl
  | rings _ timer _ _ ih =>
    rcases List.mem_cons.mp hv with rfl | hv
    · exact le_max_left _ _
    · have hle := Alarm.tick_le_of_not_isAfter (timer t ht)
      exact (ih hv).trans (max_le (max_le_max le_rfl hle) (le_max_right _ _))

/-- A wait with a timer ends. -/
lemma timer_eq_none (h : Waits wake w ws v?) (hv : v? = none) : wake.timer = none := by
  induction h with
  | ends | fires => cases hv
  | rings _ _ _ _ ih => exact ih hv
  | lasts _ timer => exact timer

end Waits

/-! ## The worlds of a wait and its end -/

variable {wake : Wake} {v w : World}

lemma sleep_eq_find? (w : World) (wake : Wake) :
    w.sleep wake = (w.pause wake).find? wake.isDueIn := (w.waits wake).find?_eq.symm

lemma mem_pause_self (w : World) (wake : Wake) : w ∈ w.pause wake := (w.waits wake).mem_self

lemma passes_of_mem_pause (h : v ∈ w.pause wake) : w.Passes v := (w.waits wake).passes h

lemma now_le_of_mem_pause {t : ℕ} (ht : wake.timer = some t) (h : v ∈ w.pause wake) :
    v.now ≤ max w.now (Instant.tick t) := (w.waits wake).now_le ht h

lemma mem_pause_of_sleep (h : w.sleep wake = some v) : v ∈ w.pause wake := by
  rw [sleep_eq_find?] at h
  exact List.mem_of_find?_eq_some h

lemma isDueIn_of_sleep (h : w.sleep wake = some v) : wake.isDueIn v = true := by
  rw [sleep_eq_find?] at h
  exact List.find?_some h

lemma passes_of_sleep (h : w.sleep wake = some v) : w.Passes v :=
  passes_of_mem_pause (mem_pause_of_sleep h)

lemma passes_end_of_mem_pause {u : World} (hu : u ∈ w.pause wake)
    (hs : w.sleep wake = some v) : u.Passes v := (w.waits wake).passes_end hs hu

lemma sleep_of_mem_pause (hv : v ∈ w.pause wake) (hdue : wake.isDueIn v = true) :
    w.sleep wake = some v := (w.waits wake).eq_some_of_mem hv hdue

lemma sleep_ne_none {t : ℕ} (ht : wake.timer = some t) (w : World) : w.sleep wake ≠ none :=
  fun h => nomatch ht.symm.trans ((w.waits wake).timer_eq_none h)

/-! ## Waits that something else may end -/

/-- A timer that fires when another, later one is due as well could have been that other one. -/
lemma advanceTo_eq_of_le {s t : ℕ} (hst : t ≤ s) {u : World} (h : s ≤ (u.advanceTo t).now)
    (hu : u.now < s) : Instant.tick s = Instant.tick t ∧ u.advanceTo s = u.advanceTo t := by
  have hs : s ≤ Instant.tick t := by
    rcases le_max_iff.mp h with h' | h'
    · omega
    · exact h'
  -- both are reached at one whole millisecond
  have htick : Instant.tick s = Instant.tick t := by
    have h1 := Instant.tick_mono hs
    rw [Instant.tick_tick] at h1
    exact le_antisymm h1 (Instant.tick_mono hst)
  exact ⟨htick, by rw [advanceTo, advanceTo, htick]⟩

/-- If the common timer of two waits ends one of them, then its own timer fires there too. -/
lemma exists_timer_of_isDueIn {e : Wake} {m : ℕ} (hw : wake.isDueIn w = false)
    (hm : (wake.or e).timer = some m) (hdue : wake.isDueIn (w.advanceTo m) = true) :
    ∃ s, wake.timer = some s ∧ Instant.tick s = Instant.tick m ∧
      w.advanceTo s = w.advanceTo m := by
  have htokens : wake.tokens.any w.forest.isCancelled = false := by
    simp only [Wake.isDue, Bool.or_eq_false_iff] at hw
    exact hw.2
  have hforest : (w.advanceTo m).forest = w.forest := rfl
  cases ht : wake.timer with
  | none =>
    simp only [Wake.isDue, ht, hforest, htokens, Bool.or_false] at hdue
    cases hdue
  | some s =>
    have hle : s ≤ (w.advanceTo m).now := by
      simpa only [Wake.isDue, ht, hforest, htokens, Bool.or_false, decide_eq_true_eq] using hdue
    have hlt : w.now < s := by
      simpa [Wake.isDue, ht, htokens] using hw
    exact ⟨s, rfl, advanceTo_eq_of_le ((Wake.earlier_eq_some hm).2 s ht) hle hlt⟩

/-- An alarm that comes before the common timer of two waits comes before that of each. -/
lemma not_isAfter_of_or {e : Wake} {a : Alarm}
    (h : ∀ m, (wake.or e).timer = some m → ¬a.IsAfter m) {s : ℕ} (hs : wake.timer = some s) :
    ¬a.IsAfter s := by
  intro hafter
  cases hm : (wake.or e).timer with
  | none => cases hs.symm.trans (Wake.earlier_eq_none hm)
  | some m =>
    exact h m hm (hafter.anti (Instant.tick_mono ((Wake.earlier_eq_some hm).2 s hs)))

/-- An alarm that rings first for two waits together does so for each. -/
lemma sleep_of_rings_or {e : Wake} {a : Alarm} {rest : List Alarm}
    (hdue : (wake.or e).isDueIn w = false)
    (htimer : ∀ m, (wake.or e).timer = some m → ¬a.IsAfter m) (halarms : w.alarms = a :: rest) :
    w.sleep wake = (w.ring a rest).sleep wake := by
  rw [Wake.isDueIn_or, Bool.or_eq_false_iff] at hdue
  have hring := (w.ring a rest).waits wake
  exact (Waits.rings hdue.1 (fun s => not_isAfter_of_or htimer) halarms hring).sleep_eq

lemma Waits.sleep_of_or {e : Wake} {ws : List World} {v? : Option World}
    (h : Waits (wake.or e) w ws v?) (hend : v? = some v) (hv : wake.isDueIn v = true) :
    w.sleep wake = some v := by
  induction h with
  | ends =>
    cases hend
    exact (Waits.ends hv).sleep_eq
  | fires hdue timer alarms =>
    cases hend
    rw [Wake.isDueIn_or, Bool.or_eq_false_iff] at hdue
    obtain ⟨s, hs, htick, hadvance⟩ := exists_timer_of_isDueIn hdue.1 timer hv
    rw [← hadvance]
    exact (Waits.fires hdue.1 hs fun a rest ha => (alarms a rest ha).anti htick.le).sleep_eq
  | rings hdue timer alarms _ ih =>
    rw [sleep_of_rings_or hdue timer alarms]
    exact ih hend
  | lasts => cases hend

/-- A wait that is over when it ends, although something else could have ended it, is the wait by
itself. -/
lemma sleep_of_sleep_or {e : Wake} (h : w.sleep (wake.or e) = some v)
    (hv : wake.isDueIn v = true) : w.sleep wake = some v :=
  (w.waits (wake.or e)).sleep_of_or h hv

lemma Waits.now_le_of_or {e : Wake} {ws ws' : List World} {v? : Option World} {u : World}
    (h : Waits (wake.or e) w ws v?) (hend : v? = some v) (hown : Waits wake w ws' (some u)) :
    v.now ≤ u.now := by
  induction h generalizing ws' with
  | ends =>
    cases hend
    exact (hown.passes hown.mem_end).now_le
  | fires hdue timer alarms =>
    cases hend
    rw [Wake.isDueIn_or, Bool.or_eq_false_iff] at hdue
    -- the wait by itself goes on until its own timer or beyond the alarm
    cases hown with
    | ends due => exact absurd due (by simp [hdue.1])
    | fires _ timer' =>
      exact max_le_max le_rfl (Instant.tick_mono ((Wake.earlier_eq_some timer).2 _ timer'))
    | rings _ _ alarms' goesOn =>
      have hafter := alarms _ _ alarms'
      exact (max_le_max le_rfl hafter.tick_le).trans (goesOn.passes goesOn.mem_end).now_le
  | @rings w a rest _ _ hdue timer alarms _ ih =>
    have hring := (w.ring a rest).waits wake
    rw [← sleep_of_rings_or hdue timer alarms, hown.sleep_eq] at hring
    exact ih hend hring
  | lasts => cases hend

/-- What may end a wait earlier does not make it longer. -/
lemma now_le_of_sleep_or {e : Wake} {u : World} (hor : w.sleep (wake.or e) = some v)
    (h : w.sleep wake = some u) : v.now ≤ u.now :=
  (w.waits (wake.or e)).now_le_of_or hor (h ▸ w.waits wake)

/-! ## What a wait does not look at -/

/-- A change of the world that has nothing to do with the clock, the tokens and the alarms: whether
it comes before or after a change of those does not matter. -/
def OutsideWaits (f : World → World) : Prop :=
  ∀ w now forest alarms, f { w with now, forest, alarms } = { f w with now, forest, alarms }

namespace OutsideWaits

variable {f : World → World}

lemma eq_self (hf : OutsideWaits f) (w : World) :
    f w = { f w with now := w.now, forest := w.forest, alarms := w.alarms } :=
  hf w w.now w.forest w.alarms

lemma isDueIn (hf : OutsideWaits f) (wake : Wake) (w : World) :
    wake.isDueIn (f w) = wake.isDueIn w := by
  rw [Wake.isDueIn, hf.eq_self w]

lemma advanceTo (hf : OutsideWaits f) (w : World) (t : ℕ) :
    f (w.advanceTo t) = (f w).advanceTo t := by
  have h := hf w (max w.now (Instant.tick t)) w.forest w.alarms
  rw [hf.eq_self w]
  exact h

lemma ring (hf : OutsideWaits f) (w : World) (a : Alarm) (rest : List Alarm) :
    f (w.ring a rest) = (f w).ring a rest := by
  have h := hf w (max w.now (Instant.tick a.time)) (w.forest.cancel a.token) rest
  rw [hf.eq_self w]
  exact h

lemma waits (hf : OutsideWaits f) {wake : Wake} {w : World} {ws : List World}
    {v? : Option World} (h : Waits wake w ws v?) : Waits wake (f w) (ws.map f) (v?.map f) := by
  have halarms : ∀ w, (f w).alarms = w.alarms := fun w => by rw [hf.eq_self w]
  induction h with
  | ends due => exact .ends (by rw [hf.isDueIn, due])
  | @fires w t hdue timer alarms =>
    have hfires := Waits.fires (w := f w) (by rw [hf.isDueIn, hdue]) timer (by rwa [halarms])
    rwa [← hf.advanceTo] at hfires
  | rings hdue timer alarms _ ih =>
    rw [hf.ring] at ih
    exact .rings (by rw [hf.isDueIn, hdue]) timer (by rw [halarms, alarms]) ih
  | lasts hdue timer alarms =>
    exact .lasts (by rw [hf.isDueIn, hdue]) timer (by rw [halarms, alarms])

/-- The worlds of a wait are changed, and nothing else. -/
lemma pause (hf : OutsideWaits f) (wake : Wake) (w : World) :
    (f w).pause wake = (w.pause wake).map f := (hf.waits (w.waits wake)).pause_eq

/-- And so is its end. -/
lemma sleep (hf : OutsideWaits f) (wake : Wake) (w : World) :
    (f w).sleep wake = (w.sleep wake).map f := (hf.waits (w.waits wake)).sleep_eq

end OutsideWaits

end World

end QueueClient
