/-
# What a run writes

All that a run leaves in the log it leaves by one act, `record`, and no act and no wait looks at
what is there already.  So the records at the end of a run are those at its beginning and, behind
them, what it has written (`records_run`), and everything else about the run is the same whatever
was written, by it or before.

This is said of an activity and of the same activity with its entries handed to a logger
(`Activity.loggedBy`): each entry is left if the logger accepts it, as the logger leaves it, and
nothing is done for an entry that it refuses.  Both come to the same, by the same acts and waits at
the same times (`run_loggedBy`, `trace_loggedBy`), and what the one writes is what the logger keeps
of what the other writes.
-/
import QueueClient.Proofs.Stage.Calls

namespace QueueClient

/-- What a logger keeps of a record: of an entry what it leaves of it, if it accepts the level;
trace events do not concern it. -/
def Logger.keep (g : Logger) : LogRecord → List LogRecord
  | .entry l text => if g.accepts l then g.write l text else []
  | .traced e => [.traced e]

/-- The level and the text of an entry. -/
def LogRecord.entry? : LogRecord → Option (Level × String)
  | .entry l text => some (l, text)
  | .traced _ => none

/-- What an event writes. -/
def Event.written : Event → List LogRecord
  | .acts (.record rs) _ => rs
  | _ => []

/-- The entries that an event writes. -/
def Event.entries (e : Event) : List (Level × String) := e.written.filterMap LogRecord.entry?

/-- The act leaves no entry. -/
def Act.LeavesNoEntry : Act → Prop
  | .record rs => ∀ record ∈ rs, record.entry? = none
  | _ => True

/-- The event as far as it has nothing to do with the log. -/
def Event.unlogged? : Event → Option Event
  | .acts (.record _) _ => none
  | .acts a w => some (.acts a { w with records := [] })
  | .waits w => some (.waits { w with records := [] })

/-- The call, whatever the log holds when it is made. -/
def Call.unlogged (call : Call) : Call := { call with world := { call.world with records := [] } }

/-! ## Nothing depends on the records -/

namespace World

variable {w : World}

lemma records_perform (w : World) (a : Act) :
    (w.perform a).2.records = w.records ++ (Event.acts a w).written := by
  cases a with
  | record rs => rfl
  | _ => exact (List.append_nil _).symm

lemma perform_of_records (w : World) (a : Act) (records : List LogRecord) :
    { w with records }.perform a =
      ((w.perform a).1,
        { (w.perform a).2 with records := records ++ (Event.acts a w).written }) := by
  cases a with
  | record rs => rfl
  | _ => simp [perform, Event.written, nextDraw]

/-- No wait looks at the records. -/
lemma outsideWaits_records (records : List LogRecord) :
    OutsideWaits fun w => { w with records } :=
  fun _ _ _ _ => rfl

lemma sleep_of_records (w : World) (wake : Wake) (records : List LogRecord) :
    { w with records }.sleep wake = (w.sleep wake).map fun v => { v with records } :=
  (outsideWaits_records records).sleep wake w

lemma pause_of_records (w : World) (wake : Wake) (records : List LogRecord) :
    { w with records }.pause wake = (w.pause wake).map fun v => { v with records } :=
  (outsideWaits_records records).pause wake w

end World

namespace Activity

variable {α β : Type} {g : Logger} {p : Activity α} {x : Option α} {v w : World}
  {records : List LogRecord}

/-! ## What is written -/

/-- What a run writes, in order. -/
def written (p : Activity α) (w : World) : List LogRecord := p.seen Event.written w

/-- The entries that a run writes, in order. -/
def entries (p : Activity α) (w : World) : List (Level × String) := p.seen Event.entries w

lemma written_act (a : Act) (k : a.Answer → Activity α) (w : World) :
    (act a k).written w = (Event.acts a w).written ++ (k (w.perform a).1).written (w.perform a).2 :=
  seen_act _ a k w

lemma entries_eq (p : Activity α) (w : World) :
    p.entries w = (p.written w).filterMap LogRecord.entry? := by
  rw [entries, written, seen, seen, List.filterMap_flatMap]
  rfl

lemma overlooks_entries : Overlooks Event.entries Act.LeavesNoEntry where
  waits := fun _ => rfl
  acts := fun a w ha => by
    cases a with
    | record rs => exact List.filterMap_eq_nil_iff.mpr ha
    | _ => rfl

/-- The records at the end of a run. -/
theorem records_run (h : p.run w = (x, v)) : v.records = w.records ++ p.written w := by
  induction p generalizing w with
  | done a =>
    rw [run_done, Prod.mk.injEq] at h
    rw [written, seen_done, List.append_nil, h.2]
  | act a k ih =>
    rw [run_act] at h
    rw [ih _ h, World.records_perform, written_act, List.append_assoc]
  | wait wake k ih =>
    have hwaits : ∀ u, Event.written (.waits u) = [] := fun _ => rfl
    cases hs : w.sleep wake with
    | none =>
      rw [run_wait_of_none hs, Prod.mk.injEq] at h
      rw [written, seen_wait_of_none hwaits hs, List.append_nil, h.2]
    | some u =>
      have hu : u.records = w.records := by rw [(World.passes_of_sleep hs).rest]
      rw [run_wait_of_some hs] at h
      rw [ih h, hu, written, written, seen_wait_of_some hwaits hs]
  | never | abort =>
    rw [← (Prod.mk.inj h).2]
    exact (List.append_nil _).symm

/-! ## Handing entries to a logger -/

/-- An act and what follows, with its entries handed to a logger. -/
def handing (g : Logger) : (a : Act) → (a.Answer → Activity α) → Activity α
  | .record rs, k =>
    if rs ≠ [] ∧ rs.flatMap g.keep = [] then k () else act (.record (rs.flatMap g.keep)) k
  | a, k => act a k

/-- The activity with its entries handed to a logger. -/
def loggedBy (g : Logger) : Activity α → Activity α
  | done a => done a
  | act a k => handing g a fun x => (k x).loggedBy g
  | wait wake k => wait wake (k.loggedBy g)
  | never => never
  | abort => abort

/-- What goes through acts goes through acts with their entries handed to a logger. -/
lemma map_handing {F : Activity α → Activity β}
    (hF : ∀ (a : Act) (k : a.Answer → Activity α), F (act a k) = act a fun x => F (k x)) (a : Act)
    (k : a.Answer → Activity α) : F (handing g a k) = handing g a fun x => F (k x) := by
  cases a with
  | record rs =>
    simp only [handing]
    split
    · rfl
    · exact hF (.record (rs.flatMap g.keep)) k
  | _ => exact hF _ k

lemma loggedBy_bind (g : Logger) (p : Activity α) (f : α → Activity β) :
    (p.bind f).loggedBy g = (p.loggedBy g).bind fun a => (f a).loggedBy g := by
  induction p with
  | done a => rfl
  | act a k ih =>
    rw [bind_act, loggedBy, loggedBy, map_handing (F := fun q => q.bind fun a => (f a).loggedBy g)
      (fun _ _ => rfl)]
    exact congrArg (handing g a) (funext ih)
  | wait wake k ih => exact congrArg (wait wake) ih
  | never | abort => rfl

lemma loggedBy_watch (g : Logger) (c : Context) (p : Activity α) :
    (p.watch c).loggedBy g = (p.loggedBy g).watch c := by
  induction p with
  | done a => rfl
  | act a k ih =>
    rw [watch, loggedBy, loggedBy, map_handing (F := fun q => q.watch c) (fun _ _ => rfl)]
    exact congrArg (handing g a) (funext ih)
  | wait wake k ih =>
    simp only [watch, loggedBy, handing]
    refine congrArg (act _) (funext fun reason => ?_)
    cases reason with
    | some reason => rfl
    | none =>
      simp only [loggedBy, handing]
      refine congrArg (wait _) (congrArg (act _) (funext fun reason => ?_))
      cases reason with
      | some reason => rfl
      | none => exact ih
  | never =>
    simp only [watch, loggedBy, handing]
    refine congrArg (act _) (funext fun reason => ?_)
    cases reason with
    | some reason => rfl
    | none =>
      simp only [loggedBy, handing]
      refine congrArg (wait _) (congrArg (act _) (funext fun reason => ?_))
      cases reason <;> rfl
  | abort => rfl

lemma loggedBy_untilDone (g : Logger) (c : Context) (p : Activity α) :
    (p.untilDone c).loggedBy g = (p.loggedBy g).untilDone c := by
  simp only [untilDone, loggedBy, handing]
  refine congrArg (act _) (funext fun reason => ?_)
  cases reason with
  | some reason => rfl
  | none => exact loggedBy_watch g c p

lemma loggedBy_timeoutAt (g : Logger) (t : ℕ) (p : Activity α) :
    (p.timeoutAt t).loggedBy g = (p.loggedBy g).timeoutAt t := by
  induction p with
  | done a => rfl
  | act a k ih =>
    rw [timeoutAt, loggedBy, loggedBy, map_handing (F := fun q => q.timeoutAt t) (fun _ _ => rfl)]
    exact congrArg (handing g a) (funext ih)
  | wait wake k ih =>
    simp only [timeoutAt, loggedBy, handing]
    refine congrArg (act _) (funext fun late => ?_)
    cases late with
    | true => rfl
    | false =>
      simp only [Bool.false_eq_true, if_false, loggedBy, handing]
      refine congrArg (wait _) (congrArg (act _) (funext fun ready => ?_))
      cases ready with
      | true => exact ih
      | false => rfl
  | never =>
    simp only [timeoutAt, loggedBy, handing]
    refine congrArg (act _) (funext fun late => ?_)
    cases late <;> rfl
  | abort => rfl

/-- Whoever leaves no entries has none to hand over. -/
lemma loggedBy_of_all (hp : p.All Act.LeavesNoEntry) : p.loggedBy g = p := by
  induction p with
  | done a => rfl
  | act a k ih =>
    rw [loggedBy, funext fun x => ih x (hp.2 x)]
    cases a with
    | record rs =>
      have hkeep : rs.flatMap g.keep = rs := by
        rw [List.flatMap_congr (g := fun record => [record]) fun record hrecord => ?_,
          List.flatMap_singleton']
        cases record with
        | entry l text => cases hp.1 _ hrecord
        | traced e => rfl
      rw [handing, hkeep, if_neg fun h => h.1 h.2]
    | _ => rfl
  | wait wake k ih => rw [loggedBy, ih hp]
  | never | abort => rfl

/-! ## What becomes of a run -/

lemma run_handing (g : Logger) (a : Act) (k : a.Answer → Activity α) (w : World)
    (records : List LogRecord) :
    (handing g a k).run { w with records } =
      (k (w.perform a).1).run { (w.perform a).2 with
        records := records ++ (Event.acts a w).written.flatMap g.keep } := by
  cases a with
  | record rs =>
    rw [handing]
    split
    · rename_i h
      simp only [Event.written, h.2, List.append_nil]
      rfl
    · rfl
  | _ =>
    simp only [handing, run_act, World.perform_of_records, Event.written, List.flatMap_nil]

/-- **Whatever logger entries are handed to, a run comes to the same**, in the same world but for
the records, and these are what the logger keeps. -/
theorem run_loggedBy (g : Logger) (p : Activity α) (w : World) (records : List LogRecord) :
    (p.loggedBy g).run { w with records } =
      ((p.run w).1, { (p.run w).2 with records := records ++ (p.written w).flatMap g.keep }) := by
  induction p generalizing w records with
  | done a => simp [loggedBy, written]
  | act a k ih =>
    rw [loggedBy, run_handing, ih, run_act, written_act, List.flatMap_append, List.append_assoc]
  | wait wake k ih =>
    have hwaits : ∀ u, Event.written (.waits u) = [] := fun _ => rfl
    have hsleep := w.sleep_of_records wake records
    rw [loggedBy]
    cases hs : w.sleep wake with
    | none =>
      rw [hs, Option.map_none] at hsleep
      rw [run_wait_of_none hsleep, run_wait_of_none hs, written, seen_wait_of_none hwaits hs,
        List.flatMap_nil, List.append_nil]
    | some u =>
      rw [hs, Option.map_some] at hsleep
      rw [run_wait_of_some hsleep, ih, run_wait_of_some hs, written, written,
        seen_wait_of_some hwaits hs]
  | never =>
    have hnone : (never : Activity α).written w = [] := rfl
    rw [loggedBy, run_never, run_never, hnone, List.flatMap_nil, List.append_nil]
  | abort =>
    have hnone : (abort : Activity α).written w = [] := rfl
    rw [loggedBy, run_abort, run_abort, hnone, List.flatMap_nil, List.append_nil]

lemma aborts_handing (g : Logger) (a : Act) (k : a.Answer → Activity α) (w : World)
    (records : List LogRecord) :
    (handing g a k).aborts { w with records } =
      (k (w.perform a).1).aborts { (w.perform a).2 with
        records := records ++ (Event.acts a w).written.flatMap g.keep } := by
  cases a with
  | record rs =>
    rw [handing]
    split
    · rename_i h
      simp only [Event.written, h.2, List.append_nil]
      rfl
    · rfl
  | _ =>
    simp only [handing, aborts_act, World.perform_of_records, Event.written, List.flatMap_nil]

/-- It breaks off if it does otherwise. -/
theorem aborts_loggedBy (g : Logger) (p : Activity α) (w : World) (records : List LogRecord) :
    (p.loggedBy g).aborts { w with records } = p.aborts w := by
  induction p generalizing w records with
  | done a => rfl
  | act a k ih => rw [loggedBy, aborts_handing, ih, aborts_act]
  | wait wake k ih =>
    have hsleep := w.sleep_of_records wake records
    rw [loggedBy]
    cases hs : w.sleep wake with
    | none =>
      rw [hs, Option.map_none] at hsleep
      rw [aborts_wait_of_none hsleep, aborts_wait_of_none hs]
    | some u =>
      rw [hs, Option.map_some] at hsleep
      rw [aborts_wait_of_some hsleep, ih, aborts_wait_of_some hs]
  | never | abort => rfl

/-- What is written then is what the logger keeps. -/
lemma written_loggedBy (g : Logger) (p : Activity α) (w : World) :
    (p.loggedBy g).written w = (p.written w).flatMap g.keep := by
  have hrun := run_loggedBy g p w w.records
  have hrecords := records_run hrun
  exact (List.append_cancel_left hrecords).symm

lemma filterMap_unlogged_waits (wake : Wake) (w : World) (records : List LogRecord) :
    (({ w with records }.pause wake).map Event.waits).filterMap Event.unlogged? =
      ((w.pause wake).map Event.waits).filterMap Event.unlogged? := by
  rw [World.pause_of_records, List.map_map, List.filterMap_map, List.filterMap_map]
  rfl

lemma trace_handing (g : Logger) (a : Act) (k : a.Answer → Activity α) (w : World)
    (records : List LogRecord) :
    ((handing g a k).trace { w with records }).filterMap Event.unlogged? =
      (Event.unlogged? (.acts a w)).toList ++
        ((k (w.perform a).1).trace { (w.perform a).2 with
          records := records ++ (Event.acts a w).written.flatMap g.keep }).filterMap
            Event.unlogged? := by
  cases a with
  | record rs =>
    rw [handing]
    split
    · rename_i h
      simp only [Event.written, h.2, List.append_nil]
      rfl
    · rfl
  | _ =>
    simp only [handing, trace_act, World.perform_of_records, Event.written, List.flatMap_nil]
    rfl

/-- **Apart from what it writes, the run goes the same way**: by the same acts and waits, in the
same worlds. -/
theorem trace_loggedBy (g : Logger) (p : Activity α) (w : World) (records : List LogRecord) :
    ((p.loggedBy g).trace { w with records }).filterMap Event.unlogged? =
      (p.trace w).filterMap Event.unlogged? := by
  induction p generalizing w records with
  | done a => rfl
  | act a k ih =>
    rw [loggedBy, trace_handing, ih, trace_act, List.filterMap_cons]
    cases Event.unlogged? (.acts a w) <;> rfl
  | wait wake k ih =>
    have hsleep := w.sleep_of_records wake records
    rw [loggedBy]
    cases hs : w.sleep wake with
    | none =>
      rw [hs, Option.map_none] at hsleep
      rw [trace_wait_of_none hsleep, trace_wait_of_none hs, filterMap_unlogged_waits]
    | some u =>
      rw [hs, Option.map_some] at hsleep
      rw [trace_wait_of_some hsleep, trace_wait_of_some hs, List.filterMap_append,
        filterMap_unlogged_waits, ih, List.filterMap_append]
  | never | abort => rfl

/-- The calls of a run are told by what of it has nothing to do with the log. -/
lemma calls_unlogged (p : Activity α) (w : World) :
    (p.calls w).map Call.unlogged =
      ((p.trace w).filterMap Event.unlogged?).filterMap Event.call? := by
  rw [calls, List.map_filterMap, List.filterMap_filterMap]
  refine List.filterMap_congr fun e _ => ?_
  cases e with
  | waits u => rfl
  | acts a u => cases a <;> rfl

end Activity

end QueueClient
