/-
# Senders that share a fate

Senders are made, copied, put under pipelines and turned into stages; in between they are shut down
and requests are sent (`Fleet.after`).  Whatever holds a sender is kept behind its origin: the place
of the first one that it comes from by copying, which is read off from the deeds alone.  A deed opens
a family, joins one, shuts one down or leaves all as they are (`does_step`), and nothing else; so
holders are of one family exactly if they have one origin (`Sound`), and what shuts down one of them
shuts down these and no others (`isShut_iff_shuts`).
-/
import QueueClient.Proofs.Sender.Refusal
import QueueClient.Proofs.Sender.Sparing

namespace QueueClient

/-! ## Making senders and pipelines -/

/-- A new family makes no difference to the others. -/
lemma Families.isShut_of_shut_eq {families families' : Families} {a : ℕ}
    (h : families'.shut = families.shut ++ [false]) (ha : a < families.shut.length) :
    families'.isShut a = families.isShut a := by
  simp [isShut, h, List.getD_eq_getElem?_getD, List.getElem?_append_left ha]

lemma HttpSender.run_new (collector : Collector) (o : TransportOptions) (w : World) :
    (∃ e, (HttpSender.new collector o).run w = (some (.error e), w)) ∨
      ∃ v, (HttpSender.new collector o).run w = (some (.ok ⟨w.families.shut.length⟩), v) ∧
        v.families.shut = w.families.shut ++ [false] := by
  rw [HttpSender.new]
  split
  · exact .inl ⟨_, rfl⟩
  · exact .inr ⟨_, rfl, rfl⟩

lemma HttpSender.families_shutDown (collector : Collector) (s : HttpSender) (w : World) :
    ((s.shutDown collector).run w).2.families = w.families.shutDown s.family := by
  rw [HttpSender.shutDown, Activity.run_act]
  split <;> rfl

section Building

variable {o : PipelineOptions} (c : Credential) (collector : Collector) (net : Network)

/-- A default pipeline makes itself a sender of a new family, if its options are in order. -/
lemma Pipeline.run_new_pooled (h : o.sender = none) (w : World) :
    (∃ e, (Pipeline.new (some c) o collector net).run w = (some (.error e), w)) ∨
      ∃ agent v, (Pipeline.new (some c) o collector net).run w =
          (some (.ok ((defaultBuilder agent c o.retry o.requestLog).onto
            ((⟨w.families.shut.length⟩ : HttpSender).policy net)
            (some ⟨w.families.shut.length⟩) ⟨o.sink, collector⟩)), v) ∧
        v.families.shut = w.families.shut ++ [false] := by
  rw [Pipeline.new]
  split
  · exact .inl ⟨_, rfl⟩
  · next agent _ =>
    simp only [PipelineBuilder.build, h]
    rcases HttpSender.run_new collector o.transport w with ⟨e, he⟩ | ⟨v, hv, hfamilies⟩
    · exact .inl ⟨e, by rw [Activity.run_bind_of_some he]; rfl⟩
    · refine .inr ⟨agent, ?_⟩
      rw [Activity.run_bind_of_some hv]
      exact ⟨_, rfl, hfamilies⟩

/-- Over a sender that is given it makes none. -/
lemma Pipeline.run_new_over {sender : Policy} (h : o.sender = some sender) (w : World) :
    (∃ e, (Pipeline.new (some c) o collector net).run w = (some (.error e), w)) ∨
      ∃ agent v, (Pipeline.new (some c) o collector net).run w =
          (some (.ok ((defaultBuilder agent c o.retry o.requestLog).onto sender none
            ⟨o.sink, collector⟩)), v) ∧ v.families = w.families := by
  rw [Pipeline.new]
  split
  · exact .inl ⟨_, rfl⟩
  · next agent _ =>
    simp only [PipelineBuilder.build, h]
    exact .inr ⟨agent, _, rfl, rfl⟩

end Building

/-! ## Deeds -/

/-- Something that holds a sender. -/
inductive Holder where
  /-- A sender. -/
  | sender (s : HttpSender)
  /-- A stage that the policy of a sender has created. -/
  | stage (sending : Stage) (s : HttpSender)
  /-- A default pipeline with a credential and options for its tries over a sender. -/
  | pipeline (p : Pipeline) (c : Credential) (retry : RetryOptions) (s : HttpSender)

namespace Holder

/-- The sender. -/
def held : Holder → HttpSender
  | sender s | stage _ s | pipeline _ _ _ s => s

/-- How it sends. -/
def send (net : Network) : Holder → Stage
  | sender s => s.send net
  | stage sending _ => sending
  | pipeline p _ _ _ => p.send

/-- How it is shut down; a stage cannot be. -/
def shutDown (collector : Collector) : Holder → Activity Unit
  | sender s => s.shutDown collector
  | stage _ _ => .done ()
  | pipeline p _ _ _ => p.shutDown

/-- Whether the sender is shut down with it: a pipeline leaves alone what it was given. -/
def closes : Holder → Bool
  | sender _ => true
  | stage _ _ => false
  | pipeline p _ _ _ => p.own.isSome

/-- It sends by nothing but the sender. -/
def IsDirect : Holder → Prop
  | sender _ | stage _ _ => True
  | pipeline _ _ _ _ => False

end Holder

/-- What is around the senders. -/
structure Outside where
  /-- The network. -/
  net : Network
  spares : net.SparesFamilies
  /-- The collector of trace events. -/
  collector : Collector

/-- What happens to senders.  They are told by the places of their holders, counted from 0. -/
inductive Fleet.Deed where
  /-- A sender is made. -/
  | make (o : TransportOptions)
  /-- A default pipeline is made, with a sender of its own. -/
  | build (c : { c : Credential // c.SparesFamilies }) (o : PipelineOptions)
  /-- A default pipeline is made over a sender. -/
  | buildOver (i : ℕ) (c : { c : Credential // c.SparesFamilies }) (o : PipelineOptions)
  /-- A holder is copied. -/
  | copy (i : ℕ)
  /-- The policy of a sender creates a stage. -/
  | create (i : ℕ) (next : Stage) (log : Logger)
  /-- A holder is shut down. -/
  | shutDown (i : ℕ)
  /-- A request is sent. -/
  | send (i : ℕ) (ctx : Context) (r : Request)
  /-- Something else happens, to anything but senders. -/
  | elsewhere (v : World)

/-- The world, and what holds a sender in it, each behind its origin. -/
structure Fleet where
  /-- The world. -/
  world : World
  /-- The holders with their origins. -/
  holders : List (ℕ × Holder)

namespace Fleet

/-- One more holder. -/
def enter (f : Fleet) (origin : ℕ) (h : Holder) (w : World) : Fleet :=
  ⟨w, f.holders ++ [(origin, h)]⟩

/-- One more holder, if it can be made. -/
def gain {α : Type} (f : Fleet) (origin : ℕ) (making : Activity (Except Error α))
    (holder? : α → Option Holder) : Fleet :=
  match making.run f.world with
  | (some (.ok a), w) => ((holder? a).map fun h => f.enter origin h w).getD { f with world := w }
  | (_, w) => { f with world := w }

/-- A deed; nothing if it is about a holder that there is not. -/
def step (out : Outside) (f : Fleet) : Deed → Fleet
  | .make o => f.gain f.holders.length (HttpSender.new out.collector o) fun s => some (.sender s)
  | .build c o =>
    f.gain f.holders.length
      (Pipeline.new (some c) { o with sender := none } out.collector out.net)
      fun p => p.own.map (.pipeline p c o.retry)
  | .buildOver i c o =>
    match f.holders[i]? with
    | some (origin, .sender s) =>
      f.gain origin
        (Pipeline.new (some c) { o with sender := some (s.policy out.net) } out.collector out.net)
        fun p => some (.pipeline p c o.retry s)
    | _ => f
  | .copy i =>
    match f.holders[i]? with
    | some (origin, h) => f.enter origin h f.world
    | none => f
  | .create i next log =>
    match f.holders[i]? with
    | some (origin, .sender s) =>
      f.enter origin (.stage ((s.policy out.net).create next log) s) f.world
    | _ => f
  | .shutDown i =>
    match f.holders[i]? with
    | some (_, h) => { f with world := ((h.shutDown out.collector).run f.world).2 }
    | none => f
  | .send i ctx r =>
    match f.holders[i]? with
    | some (_, h) => { f with world := ((h.send out.net ctx r).run f.world).2 }
    | none => f
  | .elsewhere v => { f with world := { v with families := f.world.families } }

/-- What some deeds come to that begin in a world. -/
def after (out : Outside) (w : World) (deeds : List Deed) : Fleet := deeds.foldl (step out) ⟨w, []⟩

/-- Whether the sender of a holder is shut down. -/
def isShut (f : Fleet) (h : Holder) : Bool := (f.world.perform (.isShut h.held.family)).1

/-- In the course of some deeds a holder of an origin is shut down, and its sender with it. -/
def Shuts (out : Outside) (w : World) (deeds : List Deed) (origin : ℕ) : Prop :=
  ∃ before rest i h, deeds = before ++ .shutDown i :: rest ∧
    (after out w before).holders[i]? = some (origin, h) ∧ h.closes = true

end Fleet

/-! ## What deeds do -/

/-- The holder is put together as it should be. -/
def Holder.IsSound (net : Network) : Holder → Prop
  | sender _ => True
  | stage sending s => sending = s.send net
  | pipeline p c retry s => c.SparesFamilies ∧ ∃ agent requestLog own log,
      p = (defaultBuilder agent c retry requestLog).onto (s.policy net) own log ∧
        (own = none ∨ own = some s)

namespace Holder.IsSound

variable {net : Network} {h : Holder}

lemma sparesFamilies_send (hnet : net.SparesFamilies) (hh : h.IsSound net) :
    Stage.SparesFamilies (h.send net) := by
  cases h with
  | sender s => exact s.sparesFamilies_send hnet
  | stage sending s =>
    obtain rfl : sending = s.send net := hh
    exact s.sparesFamilies_send hnet
  | pipeline p c retry s =>
    obtain ⟨hc, agent, requestLog, own, log, rfl, -⟩ := hh
    exact Pipeline.sparesFamilies_send hnet hc s

lemma families_shutDown (hh : h.IsSound net) (collector : Collector) (w : World) :
    ((h.shutDown collector).run w).2.families =
      if h.closes then w.families.shutDown h.held.family else w.families := by
  cases h with
  | sender s => exact s.families_shutDown collector w
  | stage sending s => rfl
  | pipeline p c retry s =>
    obtain ⟨-, agent, requestLog, own, log, rfl, rfl | rfl⟩ := hh
    · rfl
    · exact s.families_shutDown log.collector w

end Holder.IsSound

namespace Fleet

variable {out : Outside} {f : Fleet} {d : Deed} {i : ℕ} {e : ℕ × Holder} {h : Holder}

/-- What a deed can do to senders. -/
inductive Does (out : Outside) (f : Fleet) (d : Deed) (f' : Fleet) : Prop
  /-- Nothing. -/
  | spares : (∀ i e, d = .shutDown i → f.holders[i]? = some e → e.2.closes = false) →
      f'.holders = f.holders → f'.world.families = f.world.families → Does out f d f'
  /-- It makes a holder of a new family. -/
  | opens (h : Holder) : (∀ i, d ≠ .shutDown i) → h.IsSound out.net →
      h.held.family = f.world.families.shut.length →
      f'.holders = f.holders ++ [(f.holders.length, h)] →
      f'.world.families.shut = f.world.families.shut ++ [false] → Does out f d f'
  /-- It makes a holder with a sender that there is. -/
  | joins {e : ℕ × Holder} (h : Holder) : (∀ i, d ≠ .shutDown i) → h.IsSound out.net →
      e ∈ f.holders → h.held = e.2.held → f'.holders = f.holders ++ [(e.1, h)] →
      f'.world.families = f.world.families → Does out f d f'
  /-- It shuts a family down. -/
  | shuts {i : ℕ} {e : ℕ × Holder} : d = .shutDown i → f.holders[i]? = some e →
      e.2.closes = true → f'.holders = f.holders →
      f'.world.families = f.world.families.shutDown e.2.held.family → Does out f d f'

section Gain

variable {α : Type} {making : Activity (Except Error α)} {holder? : α → Option Holder} {v : World}

lemma gain_of_error {e : Error} (h : making.run f.world = (some (.error e), v)) (origin : ℕ) :
    f.gain origin making holder? = { f with world := v } := by
  rw [gain, h]

lemma gain_of_ok {a : α} {h : Holder} (ha : making.run f.world = (some (.ok a), v))
    (hh : holder? a = some h) (origin : ℕ) : f.gain origin making holder? = f.enter origin h v := by
  rw [gain, ha]
  dsimp only
  rw [hh, Option.map_some, Option.getD_some]

end Gain

/-- **All that a deed can do**, where all holders are put together as they should be. -/
theorem does_step (hf : ∀ e ∈ f.holders, e.2.IsSound out.net) (d : Deed) :
    Does out f d (f.step out d) := by
  cases d with
  | make o =>
    rw [step]
    rcases HttpSender.run_new out.collector o f.world with ⟨e, he⟩ | ⟨v, hv, hfamilies⟩
    · rw [gain_of_error he]
      exact .spares (by simp) rfl rfl
    · rw [gain_of_ok hv rfl]
      exact .opens (.sender _) (by simp) trivial rfl rfl hfamilies
  | build c o =>
    rw [step]
    rcases Pipeline.run_new_pooled (o := { o with sender := none }) c out.collector out.net rfl
      f.world with
      ⟨e, he⟩ | ⟨agent, v, hv, hfamilies⟩
    · rw [gain_of_error he]
      exact .spares (by simp) rfl rfl
    · rw [gain_of_ok hv rfl]
      exact .opens (.pipeline _ c _ _) (by simp) ⟨c.2, agent, _, _, _, rfl, .inr rfl⟩ rfl rfl
        hfamilies
  | buildOver i c o =>
    simp only [step]
    split
    · next origin s hi =>
      rcases Pipeline.run_new_over (o := { o with sender := some (s.policy out.net) }) c
        out.collector out.net rfl f.world with
        ⟨e, he⟩ | ⟨agent, v, hv, hfamilies⟩
      · rw [gain_of_error he]
        exact .spares (by simp) rfl rfl
      · rw [gain_of_ok hv rfl]
        exact .joins (.pipeline _ c _ s) (by simp) ⟨c.2, agent, _, _, _, rfl, .inl rfl⟩
          (List.mem_of_getElem? hi) rfl rfl hfamilies
    · exact .spares (by simp) rfl rfl
  | copy i =>
    simp only [step]
    split
    · next origin h hi =>
      have hmem := List.mem_of_getElem? hi
      exact .joins h (by simp) (hf _ hmem) hmem rfl rfl rfl
    · exact .spares (by simp) rfl rfl
  | create i next log =>
    simp only [step]
    split
    · next origin s hi =>
      exact .joins (.stage (s.send out.net) s) (by simp) rfl (List.mem_of_getElem? hi) rfl rfl rfl
    · exact .spares (by simp) rfl rfl
  | shutDown i =>
    simp only [step]
    split
    · next origin h hi =>
      have hfamilies := (hf _ (List.mem_of_getElem? hi)).families_shutDown out.collector f.world
      cases hcloses : h.closes with
      | false =>
        refine .spares ?_ rfl (by simpa [hcloses] using hfamilies)
        rintro j e hj he
        cases hj
        cases hi.symm.trans he
        exact hcloses
      | true => exact .shuts rfl hi hcloses rfl (by simpa [hcloses] using hfamilies)
    · next hi =>
      refine .spares ?_ rfl rfl
      rintro j e hj he
      cases hj
      cases hi.symm.trans he
  | send i ctx r =>
    simp only [step]
    split
    · next origin h hi =>
      refine .spares (by simp) rfl (Activity.families_run ?_ rfl)
      exact (hf _ (List.mem_of_getElem? hi)).sparesFamilies_send out.spares ctx r
    · exact .spares (by simp) rfl rfl
  | elsewhere v => exact .spares (by simp) rfl rfl

/-! ## Families and origins -/

/-- Holders are of one family exactly if they have one origin, and origins and families that are
still to come are nobody's. -/
structure Sound (out : Outside) (f : Fleet) : Prop where
  sound : ∀ e ∈ f.holders, e.2.IsSound out.net
  origin_lt : ∀ e ∈ f.holders, e.1 < f.holders.length
  family_lt : ∀ e ∈ f.holders, e.2.held.family < f.world.families.shut.length
  kin : ∀ e ∈ f.holders, ∀ e' ∈ f.holders,
    e.1 = e'.1 ↔ e.2.held.family = e'.2.held.family

variable {f' : Fleet} {origin : ℕ} {w : World} {deeds : List Deed}

namespace Sound

lemma of_holders_eq (hf : f.Sound out) (hholders : f'.holders = f.holders)
    (hlength : f'.world.families.shut.length = f.world.families.shut.length) : f'.Sound out where
  sound := by
    rw [hholders]
    exact hf.sound
  origin_lt := by
    rw [hholders]
    exact hf.origin_lt
  family_lt := by
    rw [hholders, hlength]
    exact hf.family_lt
  kin := by
    rw [hholders]
    exact hf.kin

/-- One more holder has to be kin to those of its origin. -/
lemma enter (hf : f.Sound out) (hh : h.IsSound out.net) (horigin : origin ≤ f.holders.length)
    (hle : f.world.families.shut.length ≤ f'.world.families.shut.length)
    (hlt : h.held.family < f'.world.families.shut.length)
    (hkin : ∀ e ∈ f.holders, e.1 = origin ↔ e.2.held.family = h.held.family)
    (hholders : f'.holders = f.holders ++ [(origin, h)]) : f'.Sound out where
  sound := by
    simpa [hholders, or_imp, forall_and] using ⟨fun o h' he => hf.sound (o, h') he, hh⟩
  origin_lt := by
    intro e he
    rw [hholders, List.mem_append, List.mem_singleton] at he
    rw [hholders, List.length_append, List.length_singleton]
    rcases he with he | rfl
    · exact (hf.origin_lt e he).trans (Nat.lt_succ_self _)
    · exact Nat.lt_succ_of_le horigin
  family_lt := by
    intro e he
    rw [hholders, List.mem_append, List.mem_singleton] at he
    rcases he with he | rfl
    · exact (hf.family_lt e he).trans_le hle
    · exact hlt
  kin := by
    intro e he e' he'
    rw [hholders, List.mem_append, List.mem_singleton] at he he'
    rcases he with he | rfl <;> rcases he' with he' | rfl
    · exact hf.kin e he e' he'
    · exact hkin e he
    · exact eq_comm.trans ((hkin e' he').trans eq_comm)
    · exact ⟨fun _ => rfl, fun _ => rfl⟩

/-- Every deed keeps the fleet sound. -/
theorem step (hf : f.Sound out) (d : Deed) : (f.step out d).Sound out := by
  cases does_step hf.sound d with
  | spares _ hholders hfamilies => exact hf.of_holders_eq hholders (by rw [hfamilies])
  | opens h _ hh hfamily hholders hfamilies =>
    refine hf.enter hh le_rfl ?_ ?_ (fun e he => ?_) hholders
    · simp [hfamilies]
    · simp [hfamilies, hfamily]
    · rw [hfamily]
      exact iff_of_false (hf.origin_lt e he).ne (hf.family_lt e he).ne
  | @joins e h _ hh he hheld hholders hfamilies =>
    refine hf.enter hh (hf.origin_lt e he).le (by rw [hfamilies]) ?_ (fun e' he' => ?_) hholders
    · rw [hheld, hfamilies]
      exact hf.family_lt e he
    · rw [hheld]
      exact hf.kin e' he' e he
  | shuts _ _ _ hholders hfamilies =>
    exact hf.of_holders_eq hholders (by rw [hfamilies, Families.shutDown, List.length_set])

/-- And so do all deeds. -/
theorem after (out : Outside) (w : World) (deeds : List Deed) :
    (Fleet.after out w deeds).Sound out := by
  have hfoldl : ∀ (l : List Deed) (f : Fleet), f.Sound out →
      (l.foldl (Fleet.step out) f).Sound out := by
    intro l
    induction l with
    | nil => exact fun _ hf => hf
    | cons d rest ih => exact fun f hf => ih _ (hf.step d)
  exact hfoldl deeds ⟨w, []⟩ ⟨by simp, by simp, by simp, by simp⟩

end Sound

/-! ## Who is shut down -/

lemma after_append (deeds more : List Deed) :
    after out w (deeds ++ more) = more.foldl (step out) (after out w deeds) := List.foldl_append

lemma Sound.holders_step (hf : f.Sound out) (d : Deed) :
    f.holders <+: (f.step out d).holders := by
  cases does_step hf.sound d with
  | spares _ hholders _ => rw [hholders]
  | opens h _ _ _ hholders _ => exact hholders ▸ List.prefix_append _ _
  | joins h _ _ _ _ hholders _ => exact hholders ▸ List.prefix_append _ _
  | shuts _ _ _ hholders _ => rw [hholders]

/-- Holders stay in their places. -/
lemma holders_after (deeds more : List Deed) :
    (after out w deeds).holders <+: (after out w (deeds ++ more)).holders := by
  induction more using List.reverseRecOn with
  | nil => rw [List.append_nil]
  | append_singleton more d ih =>
    have hstep : after out w (deeds ++ (more ++ [d])) =
        (after out w (deeds ++ more)).step out d := by
      rw [← List.append_assoc, after_append]
      rfl
    rw [hstep]
    exact ih.trans ((Sound.after out w _).holders_step d)

/-- An origin that is shut down is the origin of a holder. -/
lemma Shuts.exists_mem (hs : Shuts out w deeds origin) :
    ∃ e ∈ (after out w deeds).holders, e.1 = origin := by
  obtain ⟨before, rest, i, h, rfl, hi, -⟩ := hs
  exact ⟨_, (holders_after before _).subset (List.mem_of_getElem? hi), rfl⟩

lemma shuts_concat : Shuts out w (deeds ++ [d]) origin ↔
    Shuts out w deeds origin ∨ ∃ i h, d = .shutDown i ∧
      (after out w deeds).holders[i]? = some (origin, h) ∧ h.closes = true := by
  constructor
  · rintro ⟨before, rest, i, h, heq, hi, hcloses⟩
    rcases List.eq_nil_or_concat' rest with rfl | ⟨rest, x, rfl⟩
    · obtain ⟨rfl, hd⟩ := List.append_inj' heq rfl
      exact .inr ⟨i, h, List.singleton_inj.1 hd, hi, hcloses⟩
    · rw [← List.cons_append, ← List.append_assoc] at heq
      obtain ⟨rfl, -⟩ := List.append_inj' heq rfl
      exact .inl ⟨before, rest, i, h, rfl, hi, hcloses⟩
  · rintro (⟨before, rest, i, h, rfl, hi, hcloses⟩ | ⟨i, h, rfl, hi, hcloses⟩)
    · exact ⟨before, rest ++ [d], i, h, by simp, hi, hcloses⟩
    · exact ⟨deeds, [], i, h, rfl, hi, hcloses⟩

lemma shuts_concat_of_spares
    (hd : ∀ i e, d = .shutDown i → (after out w deeds).holders[i]? = some e → e.2.closes = false) :
    Shuts out w (deeds ++ [d]) origin ↔ Shuts out w deeds origin := by
  rw [shuts_concat, or_iff_left]
  rintro ⟨i, h, rfl, hi, hcloses⟩
  exact Bool.false_ne_true ((hd i _ rfl hi).symm.trans hcloses)

/-- **A sender is shut down exactly if one of its origin has been.** -/
theorem isShut_iff_shuts (he : e ∈ (after out w deeds).holders) :
    (after out w deeds).isShut e.2 = true ↔ Shuts out w deeds e.1 := by
  induction deeds using List.reverseRecOn generalizing e with
  | nil => cases he
  | append_singleton deeds d ih =>
    have hf := Sound.after out w deeds
    rw [after_append, List.foldl_cons, List.foldl_nil] at he ⊢
    change ((step out (after out w deeds) d).world.families.isShut e.2.held.family = true ↔ _)
    cases does_step hf.sound d with
    | spares hd hholders hfamilies =>
      rw [hfamilies, shuts_concat_of_spares hd]
      exact ih (hholders ▸ he)
    | opens h hd _ hfamily hholders hfamilies =>
      rw [shuts_concat_of_spares fun i _ hi => absurd hi (hd i)]
      rw [hholders, List.mem_append, List.mem_singleton] at he
      rcases he with he | rfl
      · rw [Families.isShut_of_shut_eq hfamilies (hf.family_lt e he)]
        exact ih he
      -- nobody is of the new origin yet
      · refine iff_of_false (by simp [Families.isShut, hfamilies, hfamily]) fun hs => ?_
        obtain ⟨e', he', heq⟩ := hs.exists_mem
        exact (hf.origin_lt e' he').ne heq
    | joins h hd _ he₀ hheld hholders hfamilies =>
      rw [shuts_concat_of_spares fun i _ hi => absurd hi (hd i), hfamilies]
      rw [hholders, List.mem_append, List.mem_singleton] at he
      rcases he with he | rfl
      · exact ih he
      · rw [hheld]
        exact ih he₀
    | @shuts i e₀ hd hi hcloses hholders hfamilies =>
      have he₀ := List.mem_of_getElem? hi
      rw [hholders] at he
      rw [hfamilies, shuts_concat]
      by_cases hkin : e.1 = e₀.1
      · rw [(hf.kin e he e₀ he₀).1 hkin, hkin]
        exact iff_of_true (Families.isShut_shutDown_self (hf.family_lt e₀ he₀))
          (.inr ⟨i, e₀.2, hd, hi, hcloses⟩)
      · rw [Families.isShut_shutDown_of_ne fun h => hkin ((hf.kin e he e₀ he₀).2 h.symm),
          or_iff_left]
        · exact ih he
        · rintro ⟨j, h, hd', hj, -⟩
          cases hd.symm.trans hd'
          cases hi.symm.trans hj
          exact hkin rfl

/-! ## Sends -/

/-- What holds of senders after some deeds. -/
structure Settled (out : Outside) (w : World) (deeds : List Deed) : Prop where
  /-- A sender is shut down exactly if one of its origin has been. -/
  isShut_iff : ∀ e ∈ (after out w deeds).holders,
    ((after out w deeds).isShut e.2 = true ↔ Shuts out w deeds e.1)
  /-- Holders stay, and what is shut down stays so. -/
  lasting : ∀ (more : List Deed) (i : ℕ) e, (after out w deeds).holders[i]? = some e →
    (after out w (deeds ++ more)).holders[i]? = some e ∧
      ((after out w deeds).isShut e.2 = true → (after out w (deeds ++ more)).isShut e.2 = true)
  /-- One that is shut down refuses, whatever the context, and looks at nothing else. -/
  refuses : ∀ e ∈ (after out w deeds).holders, e.2.IsDirect →
    (after out w deeds).isShut e.2 = true → ∀ ctx r,
      (e.2.send out.net ctx r).run (after out w deeds).world =
          (some (.error (.transport ⟨.shutdown, "HTTP sender has been shut down", none⟩)),
            (after out w deeds).world) ∧
        ∀ x ∈ (e.2.send out.net ctx r).trace (after out w deeds).world,
          ∃ u, x = .acts (.isShut e.2.held.family) u
  /-- One that is not shut down gives way to a context that is done. -/
  gives_way : ∀ e ∈ (after out w deeds).holders, e.2.IsDirect →
    (after out w deeds).isShut e.2 = false → ∀ ctx r reason,
      ctx.reasonIn (after out w deeds).world = some reason →
        (e.2.send out.net ctx r).run (after out w deeds).world =
          (some (.error (.cancelled reason)), (after out w deeds).world)
  /-- A default pipeline makes one try of a sender that is shut down. -/
  refused_once : ∀ origin p c retry s,
    (origin, .pipeline p c retry s) ∈ (after out w deeds).holders →
      (after out w deeds).isShut (.pipeline p c retry s) = true → c.CanSign → ∀ ctx r,
        ctx.reasonIn (after out w deeds).world = none →
          r.body.canReplay (after out w deeds).world.streams = true →
            (after out w deeds).world.now + retry.withDefaults.tryTimeout.nanos ≤ Instant.last →
              ∃ v, RefusedOnce (p.send ctx r) (after out w deeds).world v
  /-- It breaks off instead where the clock cannot name the end of the time for a try. -/
  breaks_off : ∀ origin p c retry s,
    (origin, .pipeline p c retry s) ∈ (after out w deeds).holders → ∀ ctx r,
      ctx.reasonIn (after out w deeds).world = none →
        r.body.canReplay (after out w deeds).world.streams = true →
          Instant.last < (after out w deeds).world.now + retry.withDefaults.tryTimeout.nanos →
            (p.send ctx r).aborts (after out w deeds).world = true

/-- What sends by nothing but its sender sends as the sender does. -/
lemma send_eq_of_isDirect {net : Network} (hh : h.IsSound net) (hdirect : h.IsDirect) :
    h.send net = h.held.send net := by
  cases h with
  | sender s => rfl
  | stage sending s => exact hh
  | pipeline p c s => exact hdirect.elim

/-- **Shutting down is shared and final**, whatever is made, copied, shut down and sent in whatever
order. -/
theorem settled (out : Outside) (w : World) (deeds : List Deed) : Settled out w deeds where
  isShut_iff _ he := isShut_iff_shuts he
  lasting more i e hi := by
    have he := List.mem_of_getElem? hi
    have hstay : (after out w deeds).holders <+: (after out w (deeds ++ more)).holders :=
      holders_after deeds more
    have hlt := (List.getElem?_eq_some_iff.1 hi).1
    refine ⟨by rw [← hi, (List.prefix_iff_getElem?.1 hstay) i hlt, List.getElem?_eq_getElem hlt],
      fun hshut => ?_⟩
    obtain ⟨before, rest, j, h, rfl, hj⟩ := (isShut_iff_shuts he).1 hshut
    exact (isShut_iff_shuts (hstay.subset he)).2 ⟨before, rest ++ more, j, h, by simp, hj⟩
  refuses e he hdirect hshut ctx r := by
    rw [send_eq_of_isDirect ((Sound.after out w deeds).sound e he) hdirect]
    have hstraight : (e.2.held.send out.net ctx r).Straight _ _ _ _ :=
      HttpSender.straight_send hshut
    refine ⟨hstraight.run_eq, fun x hx => ?_⟩
    obtain ⟨d, hd, u, rfl⟩ := hstraight.of_mem_trace hx
    obtain rfl := List.mem_singleton.1 hd
    exact ⟨u, rfl⟩
  gives_way e he hdirect hshut ctx r reason hdone := by
    rw [send_eq_of_isDirect ((Sound.after out w deeds).sound e he) hdirect]
    exact (HttpSender.straight_send_of_done hshut hdone).run_eq
  refused_once origin p c retry s he hshut hc ctx r hlive hreplay hnamed := by
    obtain ⟨-, agent, requestLog, own, log, rfl, -⟩ := (Sound.after out w deeds).sound _ he
    exact Pipeline.refusedOnce_send hc hlive hreplay hshut hnamed
  breaks_off origin p c retry s he ctx r hlive hreplay hlast := by
    obtain ⟨-, agent, requestLog, own, log, rfl, -⟩ := (Sound.after out w deeds).sound _ he
    exact Pipeline.aborts_send hlive hreplay hlast

/-- Options for two tries, each of a time that is too long for any clock, without logging. -/
def endlessOptions : PipelineOptions :=
  { PipelineOptions.default with
    log := some .discard
    retry := ⟨.fixed, 2, .ofSecs (2 ^ 63), .ofSecs 1, .ofSecs 3⟩ }

/-- Where nobody can be reached. -/
def desert : Outside := ⟨fun _ _ => .never, fun _ _ => trivial, none⟩

/-- A pipeline with these options. -/
def endlessPipeline (agent : HeaderValue) : Pipeline :=
  (defaultBuilder agent .anonymous endlessOptions.retry endlessOptions.requestLog).onto
    ((⟨0⟩ : HttpSender).policy desert.net) (some ⟨0⟩) ⟨.discard, none⟩

/-- It is made. -/
def buildEndless : Deed := .build ⟨.anonymous, Credential.sparesFamilies_anonymous⟩ endlessOptions

/-- It is made and shut down. -/
def endlessFleet : Fleet := after desert (.start []) [buildEndless, .shutDown 0]

lemma exists_mem_endlessFleet : ∃ agent,
    (0, .pipeline (endlessPipeline agent) .anonymous endlessOptions.retry ⟨0⟩) ∈
      endlessFleet.holders := by
  rcases Pipeline.run_new_pooled (o := { endlessOptions with sender := none }) .anonymous none
    desert.net rfl (.start []) with ⟨e, he⟩ | ⟨agent, v, hv, -⟩
  · have hbuilt : (((Pipeline.new (some .anonymous) { endlessOptions with sender := none } none
        desert.net).run (.start [])).1.any fun x => x.isOk) = true := by decide +kernel
    rw [he] at hbuilt
    cases hbuilt
  · have hmade : after desert (.start []) [buildEndless] =
        (⟨.start [], []⟩ : Fleet).enter 0
          (.pipeline (endlessPipeline agent) .anonymous endlessOptions.retry ⟨0⟩) v := by
      rw [after, List.foldl_cons, List.foldl_nil, buildEndless, step]
      exact gain_of_ok (f := ⟨.start [], []⟩) hv rfl 0
    have hstay : (after desert (.start []) [buildEndless]).holders <+: endlessFleet.holders :=
      holders_after [buildEndless] [.shutDown 0]
    exact ⟨agent, hstay.subset (hmade ▸ List.mem_cons_self)⟩

/-- **A time for a try that is too long for the clock keeps a sender from refusing.**  The sender of
a pipeline is shut down, the credential can sign, the caller waits, the request can be sent again,
and there is no result. -/
theorem exists_send_without_result :
    ∃ p, (0, .pipeline p .anonymous endlessOptions.retry ⟨0⟩) ∈ endlessFleet.holders ∧
      endlessFleet.isShut (.pipeline p .anonymous endlessOptions.retry ⟨0⟩) = true ∧
      Credential.anonymous.CanSign ∧
      (Context.ofToken ⟨[0]⟩).reasonIn endlessFleet.world = none ∧
      (Request.new "GET" default).body.canReplay endlessFleet.world.streams = true ∧
      ((p.send (.ofToken ⟨[0]⟩) (.new "GET" default)).run endlessFleet.world).1 = none ∧
      ¬ ∃ v, RefusedOnce (p.send (.ofToken ⟨[0]⟩) (.new "GET" default)) endlessFleet.world v := by
  obtain ⟨agent, hmem⟩ := exists_mem_endlessFleet
  have hlive : (Context.ofToken ⟨[0]⟩).reasonIn endlessFleet.world = none := by decide +kernel
  have hreplay : (Request.new "GET" default).body.canReplay endlessFleet.world.streams = true := rfl
  have hlast : Instant.last <
      endlessFleet.world.now + endlessOptions.retry.withDefaults.tryTimeout.nanos := by
    decide +kernel
  have hshut : endlessFleet.world.families.isShut 0 = true := by decide +kernel
  have haborts : ((endlessPipeline agent).send (.ofToken ⟨[0]⟩) (.new "GET" default)).aborts
      endlessFleet.world = true := Pipeline.aborts_send hlive hreplay hlast
  refine ⟨_, hmem, hshut, Credential.canSign_anonymous, hlive, hreplay, ?_, ?_⟩
  · rcases hrun : Activity.run _ _ with ⟨_ | x, v⟩
    · rfl
    · exact nomatch haborts.symm.trans (Activity.aborts_of_run hrun)
  · rintro ⟨v, hrefused⟩
    exact nomatch haborts.symm.trans (Activity.aborts_of_run hrefused.refused)

/-- A copy of a pipeline is shut down, and the pipeline with it; a sender and what comes from it are
not, although the pipeline over it is shut down too. -/
example :
    let c : { c : Credential // c.SparesFamilies } :=
      ⟨.sharedKey "account" 0, Credential.sparesFamilies_sharedKey _ _⟩
    let f := after ⟨fun _ _ => .never, fun _ _ => trivial, none⟩ (.start [])
      [.build c default, .make default, .copy 0, .buildOver 1 c default, .shutDown 2, .shutDown 3]
    f.holders.map (fun e => (e.1, f.isShut e.2)) =
      [(0, true), (1, false), (0, true), (1, false)] := by
  decide +kernel

end Fleet

end QueueClient
