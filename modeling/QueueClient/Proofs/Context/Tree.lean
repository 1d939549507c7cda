/-
# The tree of contexts

Contexts are made one after another: by themselves, as copies of earlier ones, around the token
of an earlier one, or below an earlier one.  In between, contexts are cancelled and time passes.
`Grove.after` does such deeds in any order and keeps how each context was made.  Two relations
are read off from the makings alone: `Reaches` follows the tokens, which copies and wrapped
tokens share, and `Descends` follows the deadlines, which wrapped tokens drop.  The paths of the
tokens agree with the first one (`Sound.suffix_iff`), because the birth number of every new token
is on no path before.
-/
import Mathlib.Tactic
import QueueClient.Proofs.Activity.Safety

namespace QueueClient

/-! ## Deeds -/

/-- A way of making a context.  Others are told by their number, counted from 0. -/
inductive Making where
  /-- By itself, without a deadline. -/
  | background
  /-- By itself, for a span of time. -/
  | withTimeout (timeout : Duration)
  /-- By itself, until an instant. -/
  | withDeadline (deadline : ℕ)
  /-- As a copy. -/
  | clone (i : ℕ)
  /-- Around the token of another one. -/
  | ofToken (i : ℕ)
  /-- Below another one, until an instant. -/
  | child (i deadline : ℕ)
  /-- Below another one, for a try. -/
  | childFor (i attempt deadline : ℕ)
deriving DecidableEq

namespace Making

/-- The context whose token is taken over. -/
def sharer? : Making → Option ℕ
  | clone i | ofToken i => some i
  | _ => none

/-- The context whose token the new token is below. -/
def parent? : Making → Option ℕ
  | child i _ | childFor i _ _ => some i
  | _ => none

/-- The context whose deadline is kept or cut short. -/
def limit? : Making → Option ℕ
  | clone i | child i _ | childFor i _ _ => some i
  | _ => none

end Making

/-- What happens to contexts. -/
inductive Grove.Deed where
  /-- One is made. -/
  | make (m : Making)
  /-- One is cancelled. -/
  | cancel (i : ℕ)
  /-- Time passes, in nanoseconds. -/
  | advance (span : ℕ)
deriving DecidableEq

/-- The contexts that were made, their tokens and the clock. -/
structure Grove where
  /-- The clock. -/
  now : ℕ
  /-- The tokens. -/
  forest : TokenForest
  /-- The contexts, each behind the way it was made, in their order. -/
  made : List (Making × Context)

namespace Grove

/-- No contexts. -/
def start : Grove := ⟨0, .empty, []⟩

/-- The context of a number. -/
def context? (g : Grove) (i : ℕ) : Option Context := g.made[i]?.map Prod.snd

/-- The context that has lent its token to this one. -/
def sharer? (g : Grove) (i : ℕ) : Option ℕ := g.made[i]?.bind fun e => e.1.sharer?

/-- The context that this one is right below. -/
def parent? (g : Grove) (i : ℕ) : Option ℕ := g.made[i]?.bind fun e => e.1.parent?

/-- The context that this one must not outlast. -/
def limit? (g : Grove) (i : ℕ) : Option ℕ := g.made[i]?.bind fun e => e.1.limit?

/-- A new context and the tokens with its token; `none` if it is to be made from one that there is
not, or to last until an instant that the clock cannot name. -/
def grow (g : Grove) : Making → Option (Context × TokenForest)
  | .background => some (Context.root g.forest none)
  | .withTimeout timeout =>
    (Instant.after? g.now timeout).map fun t => Context.root g.forest (some t)
  | .withDeadline deadline => some (Context.root g.forest (some deadline))
  | .clone i => (g.context? i).map fun c => (c, g.forest)
  | .ofToken i => (g.context? i).map fun c => (.ofToken c.token, g.forest)
  | .child i deadline => (g.context? i).map fun c => c.child g.forest deadline
  | .childFor i attempt deadline =>
    (g.context? i).map fun c => c.childFor g.forest attempt deadline

/-- A deed; nothing if no context comes of it, or if it is about one that there is not. -/
def step (g : Grove) : Deed → Grove
  | .make m =>
    match g.grow m with
    | some (c, forest) => { g with forest, made := g.made ++ [(m, c)] }
    | none => g
  | .cancel i =>
    match g.context? i with
    | some c => { g with forest := g.forest.cancel c.token }
    | none => g
  | .advance span => { g with now := g.now + span }

/-- What some deeds come to. -/
def after (deeds : List Deed) : Grove := deeds.foldl step start

/-- A context is cancelled in the course of some deeds. -/
def Cancels (deeds : List Deed) (i : ℕ) : Prop :=
  ∃ before rest, deeds = before ++ .cancel i :: rest ∧ ((after before).context? i).isSome

/-- Why a context is done, if it is. -/
def reason? (g : Grove) (c : Context) : Option CancelReason := c.reason? g.forest g.now

/-- Whoever cancels `j` cancels this context: its token is the one of `j` or below it. -/
inductive Reaches (g : Grove) (j : ℕ) : ℕ → Prop
  /-- The context itself. -/
  | self : Reaches g j j
  /-- A context that the token is lent to. -/
  | borrower {i k : ℕ} : Reaches g j i → g.sharer? k = some i → Reaches g j k
  /-- A context that the token is lent by. -/
  | lender {i k : ℕ} : Reaches g j i → g.sharer? i = some k → Reaches g j k
  /-- A context right below. -/
  | child {i k : ℕ} : Reaches g j i → g.parent? k = some i → Reaches g j k

/-- The context comes from `j` by copying and deriving. -/
inductive Descends (g : Grove) (j : ℕ) : ℕ → Prop
  /-- The context itself. -/
  | self : Descends g j j
  /-- A copy, or a context right below. -/
  | limited {i k : ℕ} : Descends g j i → g.limit? k = some i → Descends g j k

/-! ## What makings make -/

/-- A number that is on no path. -/
def IsNew (n : ℕ) (made : List (Making × Context)) : Prop := ∀ e ∈ made, n ∉ e.2.token.path

/-- The context is what its making makes of the contexts before. -/
inductive Fits (before : List (Making × Context)) (m : Making) (c : Context) : Prop
  /-- With a new token of its own. -/
  | root {n : ℕ} : m.sharer? = none → m.parent? = none → m.limit? = none → IsNew n before →
      c.token.path = [n] → Fits before m c
  /-- With the token of another one, and its deadline if it is a copy. -/
  | shared {i : ℕ} {e : Making × Context} : m.sharer? = some i → m.parent? = none →
      before[i]? = some e → c.token = e.2.token →
      (∀ k, m.limit? = some k → k = i ∧ c.deadline = e.2.deadline) → Fits before m c
  /-- With a new token below the token of another one, and no later deadline. -/
  | child {i n d : ℕ} {e : Making × Context} : m.sharer? = none → m.parent? = some i →
      m.limit? = some i → before[i]? = some e → IsNew n before →
      c.token.path = n :: e.2.token.path → c.deadline = some d →
      (∀ d', e.2.deadline = some d' → d ≤ d') → Fits before m c

end Grove

/-- The earlier one of two instants is no later than either. -/
lemma earliest_le_of_eq_some {deadline : Option ℕ} {d : ℕ} (h : deadline = some d) (other : ℕ) :
    earliest deadline other ≤ d := by
  subst h
  simp only [earliest]
  split <;> omega

namespace Grove

variable {g : Grove} {m : Making} {d : Deed} {c : Context} {f : TokenForest} {i : ℕ}

/-- Every context is as it was made, and tokens that are still to come are on no path. -/
structure Sound (g : Grove) : Prop where
  born : ∀ e ∈ g.made, ∀ n ∈ e.2.token.path, n < g.forest.born
  rooted : ∀ e ∈ g.made, e.2.token.path ≠ []
  fits : ∀ i e, g.made[i]? = some e → Fits (g.made.take i) e.1 e.2

/-- All that making a context does. -/
structure Grown (g : Grove) (m : Making) (c : Context) (f : TokenForest) : Prop where
  fits : Fits g.made m c
  marked : f.marked = g.forest.marked
  born_le : g.forest.born ≤ f.born
  rooted : c.token.path ≠ []
  born : ∀ n ∈ c.token.path, n < f.born

lemma exists_of_context? (h : g.context? i = some c) : ∃ m, g.made[i]? = some (m, c) := by
  obtain ⟨⟨m, c'⟩, he, rfl⟩ := Option.map_eq_some_iff.mp h
  exact ⟨m, he⟩

namespace Sound

lemma isNew_born (h : g.Sound) : IsNew g.forest.born g.made :=
  fun e he hn => absurd (h.born e he _ hn) (lt_irrefl _)

lemma grown_root (h : g.Sound) (hsharer : m.sharer? = none) (hparent : m.parent? = none)
    (hlimit : m.limit? = none) (deadline : Option ℕ) :
    g.Grown m (Context.root g.forest deadline).1 (Context.root g.forest deadline).2 where
  fits := .root hsharer hparent hlimit h.isNew_born rfl
  marked := rfl
  born_le := Nat.le_succ _
  rooted := List.cons_ne_nil _ _
  born := fun _ hn => Nat.lt_succ_of_le (List.mem_singleton.mp hn).le

lemma grown_shared (h : g.Sound) {e : Making × Context} (he : g.made[i]? = some e)
    (hsharer : m.sharer? = some i) (hparent : m.parent? = none) (htoken : c.token = e.2.token)
    (hlimit : ∀ k, m.limit? = some k → k = i ∧ c.deadline = e.2.deadline) :
    g.Grown m c g.forest where
  fits := .shared hsharer hparent he htoken hlimit
  marked := rfl
  born_le := le_refl _
  rooted := htoken ▸ h.rooted e (List.mem_of_getElem? he)
  born := htoken ▸ h.born e (List.mem_of_getElem? he)

lemma grown_child (h : g.Sound) {e : Making × Context} (he : g.made[i]? = some e)
    (hsharer : m.sharer? = none) (hparent : m.parent? = some i) (hlimit : m.limit? = some i)
    {deadline : ℕ}
    (htoken : c.token = ⟨g.forest.born :: e.2.token.path⟩)
    (hdeadline : c.deadline = some (earliest e.2.deadline deadline)) :
    g.Grown m c (g.forest.branch e.2.token).2 where
  fits := .child hsharer hparent hlimit he h.isNew_born (by rw [htoken]) hdeadline
    fun d' hd' => earliest_le_of_eq_some hd' deadline
  marked := rfl
  born_le := Nat.le_succ _
  rooted := by
    rw [htoken]
    exact List.cons_ne_nil _ _
  born := by
    intro n hn
    rw [htoken, List.mem_cons] at hn
    rcases hn with rfl | hn
    · exact Nat.lt_succ_self _
    · exact (h.born e (List.mem_of_getElem? he) n hn).trans (Nat.lt_succ_self _)

/-- **What making a context does**, whichever way it is made. -/
theorem grown (h : g.Sound) (hgrow : g.grow m = some (c, f)) : g.Grown m c f := by
  -- the other context, where there is one
  have hother : ∀ {i : ℕ} {r : Context → Context × TokenForest},
      (g.context? i).map r = some (c, f) → ∃ e, g.made[i]? = some e ∧ r e.2 = (c, f) := by
    intro i r hr
    obtain ⟨a, ha, hra⟩ := Option.map_eq_some_iff.mp hr
    obtain ⟨m', he⟩ := exists_of_context? ha
    exact ⟨(m', a), he, hra⟩
  cases m with
  | background =>
    cases hgrow
    exact h.grown_root rfl rfl rfl none
  | withTimeout timeout =>
    obtain ⟨t, -, hroot⟩ := Option.map_eq_some_iff.mp hgrow
    cases hroot
    exact h.grown_root rfl rfl rfl (some t)
  | withDeadline deadline =>
    cases hgrow
    exact h.grown_root rfl rfl rfl (some deadline)
  | clone i =>
    obtain ⟨e, he, hr⟩ := hother hgrow
    cases hr
    exact h.grown_shared he rfl rfl rfl fun k hk => ⟨(Option.some.inj hk).symm, rfl⟩
  | ofToken i =>
    obtain ⟨e, he, hr⟩ := hother hgrow
    cases hr
    exact h.grown_shared he rfl rfl rfl fun k hk => nomatch hk
  | child i deadline =>
    obtain ⟨e, he, hr⟩ := hother hgrow
    cases hr
    exact h.grown_child he rfl rfl rfl rfl rfl
  | childFor i attempt deadline =>
    obtain ⟨e, he, hr⟩ := hother hgrow
    cases hr
    exact h.grown_child he rfl rfl rfl rfl rfl

lemma make (h : g.Sound) (hgrow : g.grow m = some (c, f)) :
    ({ g with forest := f, made := g.made ++ [(m, c)] } : Grove).Sound := by
  have hgrown := h.grown hgrow
  refine ⟨?_, ?_, ?_⟩
  · intro e he
    rcases List.mem_append.mp he with he | he
    · exact fun n hn => (h.born e he n hn).trans_le hgrown.born_le
    · cases List.mem_singleton.mp he
      exact hgrown.born
  · intro e he
    rcases List.mem_append.mp he with he | he
    · exact h.rooted e he
    · exact List.mem_singleton.mp he ▸ hgrown.rooted
  · intro i e he
    change (g.made ++ [(m, c)])[i]? = some e at he
    change Fits ((g.made ++ [(m, c)]).take i) e.1 e.2
    rcases lt_or_ge i g.made.length with hi | hi
    · rw [List.getElem?_append_left hi] at he
      rw [List.take_append_of_le_length hi.le]
      exact h.fits i e he
    · rw [List.getElem?_append_right hi, List.getElem?_singleton] at he
      split at he
      · rename_i hi'
        obtain rfl : i = g.made.length := by omega
        cases he
        rw [List.take_left]
        exact hgrown.fits
      · exact nomatch he

/-- Every deed keeps the grove sound. -/
theorem step (h : g.Sound) (d : Deed) : (g.step d).Sound := by
  cases d with
  | make m =>
    simp only [Grove.step]
    cases hgrow : g.grow m with
    | none => exact h
    | some r => exact h.make hgrow
  | cancel i =>
    simp only [Grove.step]
    cases g.context? i with
    | none => exact h
    | some c => exact ⟨h.born, h.rooted, h.fits⟩
  | advance span => exact ⟨h.born, h.rooted, h.fits⟩

/-- And so do all deeds. -/
theorem after (deeds : List Deed) : (Grove.after deeds).Sound := by
  have hfoldl : ∀ (l : List Deed) (g : Grove), g.Sound → (l.foldl Grove.step g).Sound := by
    intro l
    induction l with
    | nil => exact fun _ h => h
    | cons d rest ih => exact fun g h => ih _ (h.step d)
  refine hfoldl deeds start ⟨?_, ?_, ?_⟩ <;> simp [start]

end Sound

/-! ## How contexts hang together -/

/-- A number that is on the path of no context made before `i`. -/
def IsNewAt (g : Grove) (i n : ℕ) : Prop :=
  ∀ k a, k < i → g.context? k = some a → n ∉ a.token.path

lemma context?_of_take {k : ℕ} {e : Making × Context} (h : (g.made.take i)[k]? = some e) :
    k < i ∧ g.context? k = some e.2 := by
  rw [List.getElem?_take] at h
  split at h
  · rename_i hlt
    exact ⟨hlt, by rw [context?, h, Option.map_some]⟩
  · exact nomatch h

lemma isNewAt_of_isNew {n : ℕ} (h : IsNew n (g.made.take i)) : g.IsNewAt i n := by
  intro k a hk ha
  obtain ⟨m, he⟩ := exists_of_context? ha
  refine h (m, a) (List.mem_of_getElem? (i := k) ?_)
  rw [List.getElem?_take, if_pos hk, he]

namespace Sound

variable {k : ℕ}

/-- The token of a context is borrowed from an earlier one, or new; a new one is a root or right
below the token of an earlier one. -/
lemma token_cases (h : g.Sound) (hc : g.context? i = some c) :
    (∃ k a, k < i ∧ g.sharer? i = some k ∧ g.context? k = some a ∧ c.token = a.token) ∨
      ∃ n p, c.token.path = n :: p ∧ g.IsNewAt i n ∧
        (p = [] ∨ ∃ k a, k < i ∧ g.parent? i = some k ∧ g.context? k = some a ∧
          p = a.token.path) := by
  obtain ⟨m, he⟩ := exists_of_context? hc
  have hsharer : g.sharer? i = m.sharer? := by rw [sharer?, he, Option.bind_some]
  have hparent : g.parent? i = m.parent? := by rw [parent?, he, Option.bind_some]
  rw [hsharer, hparent]
  cases h.fits i _ he with
  | root _ _ _ hnew hpath => exact .inr ⟨_, [], hpath, isNewAt_of_isNew hnew, .inl rfl⟩
  | shared hm _ ha htoken _ =>
    obtain ⟨hlt, ha⟩ := context?_of_take ha
    exact .inl ⟨_, _, hlt, hm, ha, htoken⟩
  | child _ hm _ ha hnew hpath =>
    obtain ⟨hlt, ha⟩ := context?_of_take ha
    exact .inr ⟨_, _, hpath, isNewAt_of_isNew hnew, .inr ⟨_, _, hlt, hm, ha, rfl⟩⟩

/-- A borrowed token is the same token. -/
lemma sharer (h : g.Sound) (hk : g.sharer? i = some k) :
    ∃ c a, g.context? i = some c ∧ g.context? k = some a ∧ c.token = a.token := by
  obtain ⟨e, he, hm⟩ := Option.bind_eq_some_iff.mp hk
  have hc : g.context? i = some e.2 := by rw [context?, he, Option.map_some]
  cases h.fits i e he with
  | root hnone => rw [hnone] at hm; exact nomatch hm
  | child hnone => rw [hnone] at hm; exact nomatch hm
  | shared hsome _ ha htoken _ =>
    cases hsome.symm.trans hm
    exact ⟨e.2, _, hc, (context?_of_take ha).2, htoken⟩

/-- The token of a derived context is new, and right below the one of the other context. -/
lemma parent (h : g.Sound) (hk : g.parent? i = some k) :
    ∃ c a n d, g.context? i = some c ∧ g.context? k = some a ∧ k < i ∧ g.IsNewAt i n ∧
      c.token.path = n :: a.token.path ∧ c.deadline = some d := by
  obtain ⟨e, he, hm⟩ := Option.bind_eq_some_iff.mp hk
  have hc : g.context? i = some e.2 := by rw [context?, he, Option.map_some]
  cases h.fits i e he with
  | root _ hnone => rw [hnone] at hm; exact nomatch hm
  | shared _ hnone => rw [hnone] at hm; exact nomatch hm
  | child _ hsome _ ha hnew hpath hd =>
    cases hsome.symm.trans hm
    obtain ⟨hlt, ha⟩ := context?_of_take ha
    exact ⟨e.2, _, _, _, hc, ha, hlt, isNewAt_of_isNew hnew, hpath, hd⟩

/-- A copy or a derived context is cancelled with the other context and ends no later. -/
lemma limit (h : g.Sound) (hk : g.limit? i = some k) :
    ∃ c a, g.context? i = some c ∧ g.context? k = some a ∧ a.token.path <:+ c.token.path ∧
      ∀ d', a.deadline = some d' → ∃ d ≤ d', c.deadline = some d := by
  obtain ⟨e, he, hm⟩ := Option.bind_eq_some_iff.mp hk
  have hc : g.context? i = some e.2 := by rw [context?, he, Option.map_some]
  cases h.fits i e he with
  | root _ _ hnone => rw [hnone] at hm; exact nomatch hm
  | shared _ _ ha htoken hlimit =>
    obtain ⟨rfl, hdeadline⟩ := hlimit k hm
    refine ⟨e.2, _, hc, (context?_of_take ha).2, by rw [htoken], fun d' hd' => ?_⟩
    exact ⟨d', le_refl _, hdeadline.trans hd'⟩
  | child _ _ hsome ha _ hpath hd hle =>
    cases hsome.symm.trans hm
    refine ⟨e.2, _, hc, (context?_of_take ha).2, ?_, fun d' hd' => ⟨_, hle d' hd', hd⟩⟩
    rw [hpath]
    exact List.suffix_cons _ _

end Sound

/-! ## The reach of a cancellation -/

variable {j k : ℕ} {a : Context}

lemma Reaches.trans (hjk : g.Reaches j k) (hki : g.Reaches k i) : g.Reaches j i := by
  induction hki with
  | self => exact hjk
  | borrower _ hs ih => exact .borrower ih hs
  | lender _ hs ih => exact .lender ih hs
  | child _ hp ih => exact .child ih hp

/-- What is reached is there, on a longer path. -/
lemma Reaches.suffix (h : g.Sound) (hr : g.Reaches j i) (ha : g.context? j = some a) :
    ∃ c, g.context? i = some c ∧ a.token.path <:+ c.token.path := by
  induction hr with
  | self => exact ⟨a, ha, List.suffix_refl _⟩
  | borrower _ hs ih =>
    obtain ⟨b, hb, hsuffix⟩ := ih
    obtain ⟨c, b', hc, hb', htoken⟩ := h.sharer hs
    cases hb.symm.trans hb'
    exact ⟨c, hc, htoken ▸ hsuffix⟩
  | lender _ hs ih =>
    obtain ⟨b, hb, hsuffix⟩ := ih
    obtain ⟨b', c, hb', hc, htoken⟩ := h.sharer hs
    cases hb.symm.trans hb'
    exact ⟨c, hc, htoken ▸ hsuffix⟩
  | child _ hp ih =>
    obtain ⟨b, hb, hsuffix⟩ := ih
    obtain ⟨c, b', n, _, hc, hb', -, -, hpath, -⟩ := h.parent hp
    cases hb.symm.trans hb'
    exact ⟨c, hc, hpath ▸ hsuffix.trans (List.suffix_cons _ _)⟩

/-- Whoever has a token has it from the context that the token was made for. -/
lemma Sound.reaches_of_path_eq (h : g.Sound) {n : ℕ} {p : List ℕ} (hc : g.context? i = some c)
    (hpath : c.token.path = n :: p) (hnew : g.IsNewAt i n) (ha : g.context? j = some a)
    (heq : a.token.path = n :: p) : g.Reaches j i := by
  induction j using Nat.strong_induction_on generalizing a with
  | _ j ih =>
    rcases h.token_cases ha with ⟨k, b, hlt, hs, hb, htoken⟩ | ⟨n', p', hpath', hnew', -⟩
    · exact (Reaches.self.lender hs).trans (ih k hlt hb (htoken ▸ heq))
    · obtain ⟨rfl, rfl⟩ := List.cons.inj (hpath'.symm.trans heq)
      rcases lt_trichotomy j i with hlt | rfl | hlt
      · exact absurd (by simp [heq]) (hnew j a hlt ha)
      · exact .self
      · exact absurd (by simp [hpath]) (hnew' i c hlt hc)

/-- **A cancellation reaches the contexts whose paths end in the path of its token**, and no
others. -/
theorem Sound.reaches_iff (h : g.Sound) (ha : g.context? j = some a) (hc : g.context? i = some c) :
    g.Reaches j i ↔ a.token.path <:+ c.token.path := by
  constructor
  · intro hr
    obtain ⟨c', hc', hsuffix⟩ := hr.suffix h ha
    cases hc.symm.trans hc'
    exact hsuffix
  · intro hsuffix
    induction i using Nat.strong_induction_on generalizing c with
    | _ i ih =>
      rcases h.token_cases hc with ⟨k, b, hlt, hs, hb, htoken⟩ | ⟨n, p, hpath, hnew, hp⟩
      · exact .borrower (ih k hlt hb (htoken ▸ hsuffix)) hs
      · rw [hpath, List.suffix_cons_iff] at hsuffix
        rcases hsuffix with heq | hsuffix
        · exact h.reaches_of_path_eq hc hpath hnew ha heq
        · rcases hp with rfl | ⟨k, b, hlt, hp, hb, rfl⟩
          · obtain ⟨m, he⟩ := exists_of_context? ha
            exact absurd (List.suffix_nil.mp hsuffix) (h.rooted _ (List.mem_of_getElem? he))
          · exact .child (ih k hlt hb hsuffix) hp

/-- A context comes on a longer path and ends no later than those that it descends from. -/
lemma Descends.limit (h : g.Sound) (hd : g.Descends j i) (ha : g.context? j = some a) :
    ∃ c, g.context? i = some c ∧ a.token.path <:+ c.token.path ∧
      ∀ d', a.deadline = some d' → ∃ d ≤ d', c.deadline = some d := by
  induction hd with
  | self => exact ⟨a, ha, List.suffix_refl _, fun d' hd' => ⟨d', le_refl _, hd'⟩⟩
  | limited _ hl ih =>
    obtain ⟨b, hb, hsuffix, hdeadline⟩ := ih
    obtain ⟨c, b', hc, hb', hsuffix', hdeadline'⟩ := h.limit hl
    cases hb.symm.trans hb'
    refine ⟨c, hc, hsuffix.trans hsuffix', fun d' hd' => ?_⟩
    obtain ⟨d₁, hle₁, hd₁⟩ := hdeadline d' hd'
    obtain ⟨d₂, hle₂, hd₂⟩ := hdeadline' d₁ hd₁
    exact ⟨d₂, hle₂.trans hle₁, hd₂⟩

/-! ## Time and cancellations -/

/-- What deeds leave as it is: contexts stay, tokens stay cancelled, time passes. -/
structure Keeps (g g' : Grove) : Prop where
  now_le : g.now ≤ g'.now
  marked : g.forest.marked <:+ g'.forest.marked
  context : ∀ i c, g.context? i = some c → g'.context? i = some c

lemma Keeps.trans {g' g'' : Grove} (h : g.Keeps g') (h' : g'.Keeps g'') : g.Keeps g'' :=
  ⟨h.now_le.trans h'.now_le, h.marked.trans h'.marked,
    fun i c hc => h'.context i c (h.context i c hc)⟩

namespace Sound

lemma keeps_step (h : g.Sound) (d : Deed) : g.Keeps (g.step d) := by
  cases d with
  | make m =>
    simp only [Grove.step]
    cases hgrow : g.grow m with
    | none => exact ⟨le_refl _, List.suffix_refl _, fun _ _ hc => hc⟩
    | some r =>
      refine ⟨le_refl _, (h.grown hgrow).marked ▸ List.suffix_refl _, fun i c hc => ?_⟩
      obtain ⟨m', he⟩ := exists_of_context? hc
      have hi := (List.getElem?_eq_some_iff.mp he).1
      rw [context?, List.getElem?_append_left hi, he, Option.map_some]
  | cancel i =>
    simp only [Grove.step]
    cases g.context? i with
    | none => exact ⟨le_refl _, List.suffix_refl _, fun _ _ hc => hc⟩
    | some c => exact ⟨le_refl _, List.suffix_cons _ _, fun _ _ hc => hc⟩
  | advance span => exact ⟨Nat.le_add_right _ _, List.suffix_refl _, fun _ _ hc => hc⟩

lemma keeps_foldl (h : g.Sound) (deeds : List Deed) : g.Keeps (deeds.foldl Grove.step g) := by
  induction deeds generalizing g with
  | nil => exact ⟨le_refl _, List.suffix_refl _, fun _ _ hc => hc⟩
  | cons d rest ih => exact (h.keeps_step d).trans (ih (h.step d))

end Sound

lemma after_append (deeds more : List Deed) :
    after (deeds ++ more) = more.foldl step (after deeds) := List.foldl_append

lemma keeps_after (deeds more : List Deed) : (after deeds).Keeps (after (deeds ++ more)) :=
  after_append deeds more ▸ (Sound.after deeds).keeps_foldl more

/-- The one deed that marks a token. -/
lemma Sound.mem_marked_step (h : g.Sound) (d : Deed) {t : Token} :
    t ∈ (g.step d).forest.marked ↔
      t ∈ g.forest.marked ∨ ∃ i c, d = .cancel i ∧ g.context? i = some c ∧ c.token = t := by
  cases d with
  | make m =>
    simp only [Grove.step]
    cases hgrow : g.grow m with
    | none => simp
    | some r => simp [(h.grown hgrow).marked]
  | cancel i =>
    simp only [Grove.step]
    cases hc : g.context? i with
    | none => simp [hc]
    | some c => simp [hc, TokenForest.cancel, or_comm, eq_comm]
  | advance span => simp [Grove.step]

/-- The marked tokens are those of the contexts that were cancelled. -/
lemma mem_marked_iff (deeds : List Deed) {t : Token} :
    t ∈ (after deeds).forest.marked ↔
      ∃ j c, Cancels deeds j ∧ (after deeds).context? j = some c ∧ c.token = t := by
  induction deeds using List.reverseRecOn with
  | nil => simp [after, start, TokenForest.empty, context?]
  | append_singleton deeds d ih =>
    have hstep : after (deeds ++ [d]) = (after deeds).step d := after_append deeds [d]
    have hkeeps := keeps_after deeds [d]
    rw [hstep, (Sound.after deeds).mem_marked_step, ih, ← hstep]
    constructor
    · rintro (⟨j, c, ⟨before, rest, rfl, hj⟩, hc, rfl⟩ | ⟨j, c, rfl, hc, rfl⟩)
      · exact ⟨j, c, ⟨before, rest ++ [d], by simp, hj⟩, hkeeps.context j c hc, rfl⟩
      · exact ⟨j, c, ⟨deeds, [], rfl, by simp [hc]⟩, hkeeps.context j c hc, rfl⟩
    · rintro ⟨j, c, ⟨before, rest, heq, hj⟩, hc, rfl⟩
      obtain ⟨c', hc'⟩ := Option.isSome_iff_exists.mp hj
      rcases List.eq_nil_or_concat' rest with rfl | ⟨rest, x, rfl⟩
      -- the cancellation is the last deed
      · obtain ⟨rfl, hd⟩ := List.append_inj' heq rfl
        obtain rfl := List.singleton_inj.mp hd
        cases hc.symm.trans (hkeeps.context j c' hc')
        exact .inr ⟨j, c, rfl, hc', rfl⟩
      · rw [← List.cons_append, ← List.append_assoc] at heq
        obtain ⟨rfl, -⟩ := List.append_inj' heq rfl
        have hc'' := (keeps_after before (.cancel j :: rest)).context j c' hc'
        cases hc.symm.trans (hkeeps.context j c' hc'')
        exact .inl ⟨j, c, ⟨before, rest, rfl, hj⟩, hc'', rfl⟩

/-- What holds of contexts after some deeds. -/
structure Orderly (deeds : List Deed) : Prop where
  /-- A context is cancelled exactly if a cancellation has reached it. -/
  cancelled_iff : ∀ i c, (after deeds).context? i = some c →
    ((after deeds).reason? c = some .cancelled ↔
      ∃ j, Cancels deeds j ∧ (after deeds).Reaches j i)
  /-- No cancellation reaches a context from right below. -/
  parent_spared : ∀ i k, (after deeds).parent? i = some k → ¬ (after deeds).Reaches i k
  /-- Nor does one cross over from a context derived from the same token. -/
  sibling_spared : ∀ i i' k k' x, i ≠ i' →
    (after deeds).parent? i = some k → (after deeds).parent? i' = some k' →
    (after deeds).Reaches k k' → (after deeds).Reaches k' k →
    (after deeds).Reaches i x → ¬ (after deeds).Reaches i' x
  /-- A derived context has a deadline. -/
  child_deadline : ∀ i k, (after deeds).parent? i = some k →
    ∃ c d, (after deeds).context? i = some c ∧ c.deadline = some d
  /-- It is no later than the deadline of a context that it descends from. -/
  deadline_le : ∀ j i a c, (after deeds).Descends j i → (after deeds).context? j = some a →
    (after deeds).context? i = some c → ∀ d', a.deadline = some d' → ∃ d ≤ d', c.deadline = some d
  /-- Whenever a context is done, what descends from it is done. -/
  done_of_descends : ∀ j i a c, (after deeds).Descends j i → (after deeds).context? j = some a →
    (after deeds).context? i = some c →
    ((after deeds).reason? a).isSome → ((after deeds).reason? c).isSome
  /-- What is done stays done, and what is cancelled stays cancelled. -/
  lasting : ∀ more i c, (after deeds).context? i = some c →
    (after (deeds ++ more)).context? i = some c ∧
      (((after deeds).reason? c).isSome → ((after (deeds ++ more)).reason? c).isSome) ∧
      ((after deeds).reason? c = some .cancelled →
        (after (deeds ++ more)).reason? c = some .cancelled)

lemma cancelled_iff_reached (deeds : List Deed) (hc : (after deeds).context? i = some c) :
    (after deeds).reason? c = some .cancelled ↔
      ∃ j, Cancels deeds j ∧ (after deeds).Reaches j i := by
  have h := Sound.after deeds
  rw [reason?, Context.reason?_eq_cancelled_iff, TokenForest.isCancelled_iff]
  constructor
  · rintro ⟨t, ht, hsuffix⟩
    obtain ⟨j, a, hj, ha, rfl⟩ := (mem_marked_iff deeds).mp ht
    exact ⟨j, hj, (h.reaches_iff ha hc).mpr hsuffix⟩
  · rintro ⟨j, hj, hr⟩
    have hexists : ∃ a, (after deeds).context? j = some a := by
      obtain ⟨before, rest, rfl, hsome⟩ := hj
      obtain ⟨a, ha⟩ := Option.isSome_iff_exists.mp hsome
      exact ⟨a, (keeps_after before (.cancel j :: rest)).context j a ha⟩
    obtain ⟨a, ha⟩ := hexists
    exact ⟨a.token, (mem_marked_iff deeds).mpr ⟨j, a, hj, ha, rfl⟩, (h.reaches_iff ha hc).mp hr⟩

lemma Sound.parent_spared (h : g.Sound) (hp : g.parent? i = some k) : ¬ g.Reaches i k := by
  intro hr
  obtain ⟨c, a, n, _, hc, ha, -, -, hpath, -⟩ := h.parent hp
  have hle := ((h.reaches_iff hc ha).mp hr).length_le
  rw [hpath, List.length_cons] at hle
  omega

/-- Two contexts right below one token have different tokens of the same depth, so nothing is below
both. -/
lemma Sound.sibling_spared (h : g.Sound) {i' k' x : ℕ} (hne : i ≠ i')
    (hp : g.parent? i = some k) (hp' : g.parent? i' = some k') (hkk' : g.Reaches k k')
    (hk'k : g.Reaches k' k) (hx : g.Reaches i x) : ¬ g.Reaches i' x := by
  intro hx'
  obtain ⟨c, a, n, _, hc, ha, hlt, hnew, hpath, -⟩ := h.parent hp
  obtain ⟨c', a', n', _, hc', ha', hlt', hnew', hpath', -⟩ := h.parent hp'
  obtain ⟨b, hb, hsuffix⟩ := hx.suffix h hc
  have hsuffix' := (h.reaches_iff hc' hb).mp hx'
  have hone : a.token.path = a'.token.path :=
    ((h.reaches_iff ha ha').mp hkk').eq_of_length_le
      ((h.reaches_iff ha' ha).mp hk'k).length_le
  have hlength : c.token.path.length = c'.token.path.length := by
    rw [hpath, hpath', hone, List.length_cons, List.length_cons]
  have heq : c.token.path = c'.token.path :=
    List.IsSuffix.eq_of_length (List.suffix_of_suffix_length_le hsuffix hsuffix' hlength.le) hlength
  obtain ⟨rfl, -⟩ := List.cons.inj (hpath.symm.trans (heq.trans hpath'))
  rcases lt_or_gt_of_ne hne with hii' | hii'
  · exact hnew' i c hii' hc (by simp [hpath])
  · exact hnew i' c' hii' hc' (by simp [hpath'])

/-- **The tree of contexts is orderly**, whatever is made, cancelled and waited for in whatever
order. -/
theorem orderly (deeds : List Deed) : Orderly deeds where
  cancelled_iff _ _ hc := cancelled_iff_reached deeds hc
  parent_spared _ _ := (Sound.after deeds).parent_spared
  sibling_spared _ _ _ _ _ := (Sound.after deeds).sibling_spared
  child_deadline i k hp := by
    obtain ⟨c, _, _, d, hc, -, -, -, -, hd⟩ := (Sound.after deeds).parent hp
    exact ⟨c, d, hc, hd⟩
  deadline_le j i a c hd ha hc := by
    obtain ⟨c', hc', -, hdeadline⟩ := hd.limit (Sound.after deeds) ha
    cases hc.symm.trans hc'
    exact hdeadline
  done_of_descends j i a c hd ha hc hdone := by
    obtain ⟨c', hc', hpath, hdeadline⟩ := hd.limit (Sound.after deeds) ha
    cases hc.symm.trans hc'
    exact Context.isSome_reason?_of_le hpath hdeadline (List.suffix_refl _) (le_refl _) hdone
  lasting more i c hc := by
    have hkeeps := keeps_after deeds more
    refine ⟨hkeeps.context i c hc, fun hdone => ?_, fun hcancelled => ?_⟩
    · exact Context.isSome_reason?_mono hkeeps.marked hkeeps.now_le hdone
    · rw [reason?, Context.reason?_eq_cancelled_iff] at hcancelled ⊢
      exact TokenForest.isCancelled_mono hkeeps.marked hcancelled

/-- A child is cancelled, and its sibling is over with its own deadline. -/
example :
    let g := after [.make .background, .make (.child 0 9), .make (.child 0 5), .cancel 1,
      .advance 5]
    g.made.map (fun e => g.reason? e.2) = [none, some .cancelled, some .deadlineExceeded] := by
  decide

end Grove

end QueueClient
