/-
# Ids that are shown once

An activity that sends a request holds the ids that it was given and has not shown yet.  It is
honest (`Activity.Honest`) if the last stage is called with what the caller has named the request,
or else with an id that the activity holds, which is used up by that.  Whoever has an id was given
it, and nobody is given an id twice; so what honest activities side by side show are ids that
differ (`Crowd.Told`), whatever turns they take.
-/
import QueueClient.Proofs.Activity.Together
import QueueClient.Proofs.Credential.Signing

namespace QueueClient

/-! ## Requests and their names -/

namespace Request

/-- The try that the context belongs to keeps the name of the request: there is one, and either the
caller has given it or nothing has been tried yet. -/
def keepsId (r : Request) (c : Context) : Bool :=
  r.headers.contains clientRequestIdHeader && (! r.generatedId || c.attempt == 1)

/-- The values that the request has for a name. -/
abbrev idValues (r : Request) : List HeaderValue := r.headers.values clientRequestIdHeader

/-- The request is named by one id. -/
def ShowsId (r : Request) (id : String) : Prop := r.idValues = [Utf8.encode id]

lemma ShowsId.inj {q r : Request} {id id' : String} (hq : q.ShowsId id) (hr : r.ShowsId id')
    (h : q.idValues = r.idValues) : id = id' :=
  Utf8.encode_inj.mp (List.singleton_inj.mp (hq.symm.trans (h.trans hr)))

end Request

/-! ## Honest activities -/

namespace Act

/-- A call for the request `r` shows its name, or an id that is held. -/
def IsHonest (r : Request) (held : Set String) : Act → Prop
  | arrive c q => if r.keepsId c then q.idValues = r.idValues else ∃ id ∈ held, q.ShowsId id
  | _ => True

/-- The ids that are held when the act is answered: one that is made up is new, one that is shown is
used up. -/
def heldAfter (held : Set String) : (a : Act) → a.Answer → Set String
  | newId, id => insert id held
  | arrive _ q, _ => {id ∈ held | ¬ q.ShowsId id}
  | _, _ => held

/-- What is answered can be: the copy of a request is that request. -/
def MayAnswer : (a : Act) → a.Answer → Prop
  | rewind r _, x => ∀ q, x = .ok q → q = r
  | _, _ => True

lemma mayAnswer_perform (a : Act) (w : World) : a.MayAnswer (w.perform a).1 := by
  cases a with
  | rewind r attempt =>
    intro q hq
    simp only [World.perform, Request.rewind] at hq
    split at hq
    · exact (Except.ok.inj hq).symm
    · cases hq
  | _ => trivial

lemma IsHonest.of_isQuiet {a : Act} (h : a.IsQuiet) (r : Request) (held : Set String) :
    a.IsHonest r held := by
  cases a with
  | arrive c q => exact absurd h id
  | _ => trivial

lemma isHonest_arrive_of_keepsId {r q : Request} {c : Context} (h : r.keepsId c = true)
    {held : Set String} : (arrive c q).IsHonest r held ↔ q.idValues = r.idValues := by
  rw [IsHonest, if_pos h]

lemma isHonest_arrive_of_not_keepsId {r q : Request} {c : Context} (h : r.keepsId c = false)
    {held : Set String} : (arrive c q).IsHonest r held ↔ ∃ id ∈ held, q.ShowsId id := by
  rw [IsHonest, if_neg (by rw [h]; exact Bool.false_ne_true)]

lemma isQuiet_or (a : Act) : a.IsQuiet ∨ ∃ c q, a = arrive c q := by
  cases a with
  | arrive c q => exact .inr ⟨c, q, rfl⟩
  | _ => exact .inl trivial

/-- Nothing but making up an id adds one. -/
lemma heldAfter_subset {a : Act} (h : a ≠ newId) {held : Set String} {x : a.Answer} :
    a.heldAfter held x ⊆ held := by
  cases a with
  | newId => exact absurd rfl h
  | arrive c q => exact fun _ hid => hid.1
  | _ => exact subset_rfl

/-- Nothing but a call uses one up. -/
lemma IsQuiet.subset_heldAfter {a : Act} (h : a.IsQuiet) (held : Set String) (x : a.Answer) :
    held ⊆ a.heldAfter held x := by
  cases a with
  | arrive c q => exact absurd h id
  | newId => exact Set.subset_insert _ _
  | _ => exact subset_rfl

end Act

namespace Activity

variable {α β : Type} {r : Request} {held : Set String} {c : Context}

/-- Whatever it is answered, the activity comes to results of a kind only. -/
def Yields (P : α → Prop) : Activity α → Prop
  | done a => P a
  | act a k => ∀ x, a.MayAnswer x → (k x).Yields P
  | wait _ k => k.Yields P
  | never => True
  | abort => True

lemma Yields.of_true (p : Activity α) : p.Yields fun _ => True := by
  induction p with
  | done a => trivial
  | act a k ih => exact fun x _ => ih x
  | wait wake k ih => exact ih
  | never | abort => trivial

/-- The activity calls the last stage with what the request is named or with an id that it holds,
whatever it is answered. -/
def Honest (r : Request) (Q : α → Set String → Prop) : Activity α → Set String → Prop
  | done a, held => Q a held
  | act a k, held =>
    a.IsHonest r held ∧ ∀ x, a.MayAnswer x → (k x).Honest r Q (a.heldAfter held x)
  | wait _ k, held => k.Honest r Q held
  | never, _ => True
  | abort, _ => True

/-- Honest, whatever it comes to. -/
abbrev HonestAbout (r : Request) (p : Activity α) (held : Set String) : Prop :=
  p.Honest r (fun _ _ => True) held

namespace Honest

variable {p : Activity α} {Q : α → Set String → Prop} {R : β → Set String → Prop}

lemma bind {f : α → Activity β} (h : p.Honest r Q held)
    (hf : ∀ a held, Q a held → (f a).Honest r R held) : (p.bind f).Honest r R held := by
  induction p generalizing held with
  | done a => exact hf a held h
  | act a k ih => exact ⟨h.1, fun x hx => ih x (h.2 x hx)⟩
  | wait wake k ih => exact ih h
  | never | abort => trivial

/-- Where no calls are made, ids are only added to those that are held. -/
lemma of_quiet {P : α → Prop} (h : p.Quiet) (hp : p.Yields P) (r : Request) (held : Set String) :
    p.Honest r (fun a more => held ⊆ more ∧ P a) held := by
  suffices hmore : ∀ more, held ⊆ more → p.Honest r (fun a m => held ⊆ m ∧ P a) more from
    hmore held subset_rfl
  intro more hsub
  induction p generalizing more with
  | done a => exact ⟨hsub, hp⟩
  | act a k ih =>
    exact ⟨.of_isQuiet h.1 r more, fun x hx => ih x (h.2 x) (hp x hx) _
      (hsub.trans (h.1.subset_heldAfter more x))⟩
  | wait wake k ih => exact ih h hp more hsub
  | never | abort => trivial

lemma mono {R : α → Set String → Prop} (h : p.Honest r Q held) (hQ : ∀ a s, Q a s → R a s) :
    p.Honest r R held := by
  induction p generalizing held with
  | done a => exact hQ a held h
  | act a k ih => exact ⟨h.1, fun x hx => ih x (h.2 x hx)⟩
  | wait wake k ih => exact ih h
  | never | abort => trivial

/-- Giving way to a context takes looks at the context only. -/
lemma watch (h : p.HonestAbout r held) : (p.watch c).HonestAbout r held := by
  induction p generalizing held with
  | done a => trivial
  | act a k ih => exact ⟨h.1, fun x hx => ih x (h.2 x hx)⟩
  | wait wake k ih =>
    refine ⟨trivial, ?_⟩
    rintro (_ | r) -
    · refine ⟨trivial, ?_⟩
      rintro (_ | r) -
      · exact ih h
      · trivial
    · trivial
  | never =>
    refine ⟨trivial, ?_⟩
    rintro (_ | r) -
    · refine ⟨trivial, ?_⟩
      rintro (_ | r) - <;> trivial
    · trivial
  | abort => trivial

lemma untilDone (h : p.HonestAbout r held) : (p.untilDone c).HonestAbout r held := by
  refine ⟨trivial, ?_⟩
  rintro (_ | r) -
  · exact watch h
  · trivial

/-- Giving way to a timer takes looks at the clock only. -/
lemma timeoutAt {t : ℕ} (h : p.HonestAbout r held) : (p.timeoutAt t).HonestAbout r held := by
  induction p generalizing held with
  | done a => trivial
  | act a k ih => exact ⟨h.1, fun x hx => ih x (h.2 x hx)⟩
  | wait wake k ih =>
    refine ⟨trivial, ?_⟩
    rintro (_ | _) -
    · refine ⟨trivial, ?_⟩
      rintro (_ | _) -
      · trivial
      · exact ih h
    · trivial
  | never =>
    refine ⟨trivial, ?_⟩
    rintro (_ | _) - <;> trivial
  | abort => trivial

/-- Without calls there is nothing to be dishonest about. -/
lemma about_of_quiet (h : p.Quiet) : p.HonestAbout r held :=
  (of_quiet h (Yields.of_true p) r held).mono fun _ _ _ => trivial

end Honest

end Activity

/-! ## Honest crowds -/

namespace Crowd

variable {α : Type} {own : ℕ → Request} {held : ℕ → Set String} {c c' : Crowd α}
  {calls more : List (ℕ × Call)} {i : ℕ}

/-- The call is to show the name that the request has, `own i` being the request of member `i`. -/
def keeps (own : ℕ → Request) (x : ℕ × Call) : Bool := (own x.1).keepsId x.2.context

/-- What the last stage is told. -/
structure Told (own : ℕ → Request) (calls : List (ℕ × Call)) : Prop where
  /-- Names that are to be kept are. -/
  kept : ∀ x ∈ calls, keeps own x = true → x.2.request.idValues = (own x.1).idValues
  /-- Otherwise there is one id. -/
  made : ∀ x ∈ calls, keeps own x = false → ∃ id, x.2.request.ShowsId id
  /-- No such id is seen twice. -/
  nodup : ((calls.filter fun x => ! keeps own x).map fun x => x.2.request.idValues).Nodup

/-- An honest crowd: each of its members holds ids of its own, which were made up and not shown. -/
structure IsHonest (own : ℕ → Request) (held : ℕ → Set String) (c : Crowd α)
    (calls : List (ℕ × Call)) : Prop where
  honest : ∀ i (p : Activity α), c.members[i]? = some p → p.HonestAbout (own i) (held i)
  given : ∀ i, ∀ id ∈ held i, id ∈ c.ids
  apart : ∀ i j id, id ∈ held i → id ∈ held j → i = j
  unshown : ∀ i, ∀ id ∈ held i, ∀ x ∈ calls, keeps own x = false → ¬ x.2.request.ShowsId id
  shown : ∀ x ∈ calls, keeps own x = false → ∃ id ∈ c.ids, x.2.request.ShowsId id
  told : Told own calls

namespace IsHonest

/-- An id that was not made up has not been shown. -/
lemma not_showsId (h : c.IsHonest own held calls) {id : String} (hid : id ∉ c.ids) {x : ℕ × Call}
    (hx : x ∈ calls) (hkeeps : keeps own x = false) : ¬ x.2.request.ShowsId id := by
  intro hshows
  obtain ⟨id', hid', hshows'⟩ := h.shown x hx hkeeps
  exact hid (hshows.inj hshows' rfl ▸ hid')

/-- A member goes on: of the ids that it holds then, it has held each before, or it is new. -/
lemma goesOn (h : c.IsHonest own held calls) {p : Activity α} {s : Set String} {ids : List String}
    (hp : p.HonestAbout (own i) s) (hids : c.ids ⊆ ids)
    (hs : ∀ id ∈ s, id ∈ held i ∨ id ∈ ids ∧ id ∉ c.ids) (w : World) :
    (⟨w, c.members.set i p, ids⟩ : Crowd α).IsHonest own (Function.update held i s) calls := by
  -- whoever holds an id has held it before, unless it is new and this member's
  have hheld : ∀ j, ∀ id ∈ Function.update held i s j,
      id ∈ held j ∨ j = i ∧ id ∈ ids ∧ id ∉ c.ids := by
    intro j id hid
    rcases eq_or_ne j i with rfl | hj
    · rw [Function.update_self] at hid
      exact (hs id hid).imp_right fun hnew => ⟨rfl, hnew⟩
    · rw [Function.update_of_ne hj] at hid
      exact .inl hid
  refine ⟨fun j q hq => ?_, fun j id hid => ?_, fun j k id hj hk => ?_,
    fun j id hid x hx hkeeps => ?_, fun x hx hkeeps => ?_, h.told⟩
  · rcases eq_or_ne j i with rfl | hj
    · rw [Function.update_self]
      have hlt : j < c.members.length := by
        simpa using (List.getElem?_eq_some_iff.mp hq).1
      cases hq.symm.trans (List.getElem?_set_self hlt)
      exact hp
    · rw [Function.update_of_ne hj]
      exact h.honest j q (by rwa [List.getElem?_set_ne hj.symm] at hq)
  · rcases hheld j id hid with hid | ⟨-, hid, -⟩
    · exact hids (h.given j id hid)
    · exact hid
  · rcases hheld j id hj with hj' | ⟨hji, -, hj'⟩ <;>
      rcases hheld k id hk with hk' | ⟨hki, -, hk'⟩
    · exact h.apart j k id hj' hk'
    · exact absurd (h.given j id hj') hk'
    · exact absurd (h.given k id hk') hj'
    · exact hji.trans hki.symm
  · rcases hheld j id hid with hid | ⟨-, -, hid⟩
    · exact h.unshown j id hid x hx hkeeps
    · exact h.not_showsId hid hx hkeeps
  · obtain ⟨id, hid, hshows⟩ := h.shown x hx hkeeps
    exact ⟨id, hids hid, hshows⟩

/-- A call is added that shows what it is to show, or an id that nobody holds and no call has
shown. -/
lemma tells (h : c.IsHonest own held calls) {x : ℕ × Call}
    (hkept : keeps own x = true → x.2.request.idValues = (own x.1).idValues)
    (hmade : keeps own x = false → ∃ id ∈ c.ids, x.2.request.ShowsId id ∧
      (∀ y ∈ calls, keeps own y = false → ¬ y.2.request.ShowsId id) ∧ ∀ j, id ∉ held j) :
    c.IsHonest own held (calls ++ [x]) := by
  have hall : ∀ {P : ℕ × Call → Prop}, (∀ y ∈ calls, P y) → P x → ∀ y ∈ calls ++ [x], P y := by
    intro P hcalls hx y hy
    rcases List.mem_append.mp hy with hy | hy
    · exact hcalls y hy
    · exact List.mem_singleton.mp hy ▸ hx
  refine ⟨h.honest, h.given, h.apart, fun j id hid => hall (h.unshown j id hid) fun hkeeps => ?_,
    hall h.shown fun hkeeps => ?_, hall h.told.kept hkept, hall h.told.made fun hkeeps => ?_, ?_⟩
  · obtain ⟨id', -, hshows, -, hfree⟩ := hmade hkeeps
    exact fun hid' => hfree j (hshows.inj hid' rfl ▸ hid)
  · obtain ⟨id, hid, hshows, -⟩ := hmade hkeeps
    exact ⟨id, hid, hshows⟩
  · obtain ⟨id, -, hshows, -⟩ := hmade hkeeps
    exact ⟨id, hshows⟩
  · rw [List.filter_append, List.map_append]
    cases hkeeps : keeps own x with
    | true => simpa [hkeeps] using h.told.nodup
    | false =>
      obtain ⟨id, -, hshows, hnew, -⟩ := hmade hkeeps
      simp only [List.filter_cons, hkeeps, Bool.not_false, if_true, List.filter_nil,
        List.map_cons, List.map_nil]
      refine h.told.nodup.append (List.nodup_singleton _) ?_
      rw [List.disjoint_singleton]
      intro hmem
      obtain ⟨y, hy, heq⟩ := List.mem_map.mp hmem
      rw [List.mem_filter, Bool.not_eq_true'] at hy
      exact hnew y hy.1 hy.2 (heq.trans hshows)

/-- **A turn keeps a crowd honest.** -/
theorem turn (h : c.IsHonest own held calls) (hturn : Turn c more c') :
    ∃ held', c'.IsHonest own held' (calls ++ more) := by
  cases hturn with
  | @act w ms ids i a k hi ha =>
    obtain ⟨hhonest, hrest⟩ := h.honest i _ hi
    have hgoesOn := h.goesOn (hrest _ (a.mayAnswer_perform w)) (List.Subset.refl _)
      (fun id hid => .inl (Act.heldAfter_subset ha hid)) (w.perform a).2
    rcases a.isQuiet_or with hquiet | ⟨ctx, q, rfl⟩
    · rw [hquiet.call?_eq_none, Option.toList_none, List.map_nil, List.append_nil]
      exact ⟨_, hgoesOn⟩
    · refine ⟨_, hgoesOn.tells (x := (i, ⟨ctx, q, w⟩)) (fun hkeeps => ?_) fun hkeeps => ?_⟩
      · exact (Act.isHonest_arrive_of_keepsId hkeeps).mp hhonest
      · obtain ⟨id, hid, hshows⟩ := (Act.isHonest_arrive_of_not_keepsId hkeeps).mp hhonest
        refine ⟨id, h.given i id hid, hshows, h.unshown i id hid, fun j hj => ?_⟩
        rcases eq_or_ne j i with rfl | hne
        · rw [Function.update_self] at hj
          exact hj.2 hshows
        · rw [Function.update_of_ne hne] at hj
          exact hne (h.apart j i id hj hid)
  | @newId w ms ids i k id hi hid =>
    obtain ⟨-, hrest⟩ := h.honest i _ hi
    rw [List.append_nil]
    refine ⟨_, h.goesOn (hrest id trivial) (List.subset_cons_self _ _) (fun id' hid' => ?_) _⟩
    rcases Set.mem_insert_iff.mp hid' with rfl | hid'
    · exact .inr ⟨List.mem_cons_self, hid⟩
    · exact .inl hid'
  | @wake w ms ids i wake k hi hdue =>
    have hwait : (Activity.wait wake k).HonestAbout (own i) (held i) := h.honest i _ hi
    have hk : k.HonestAbout (own i) (held i) := hwait
    rw [List.append_nil]
    exact ⟨_, h.goesOn hk (List.Subset.refl _) (fun id hid => .inl hid) w⟩
  | elsewhere v more =>
    rw [List.append_nil]
    refine ⟨held, h.honest, fun j id hid => ?_, h.apart, h.unshown, fun x hx hkeeps => ?_, h.told⟩
    · exact List.mem_append_right _ (h.given j id hid)
    · obtain ⟨id, hid, hshows⟩ := h.shown x hx hkeeps
      exact ⟨id, List.mem_append_right _ hid, hshows⟩

/-- And so do all turns. -/
theorem turns (h : c.IsHonest own held []) (hturns : Turns c calls c') :
    ∃ held', c'.IsHonest own held' calls := by
  induction hturns with
  | none => exact ⟨held, h⟩
  | next _ hturn ih =>
    obtain ⟨held', h'⟩ := ih
    exact h'.turn hturn

end IsHonest

/-- **What honest activities tell**, whatever turns they take, if none of them holds an id at
first. -/
theorem told_of_turns (hhonest : ∀ i (p : Activity α), c.members[i]? = some p →
    p.HonestAbout (own i) ∅) (hturns : Turns c calls c') : Told own calls := by
  have hstart : c.IsHonest own (fun _ => ∅) [] :=
    { honest := hhonest
      given := fun _ _ hid => absurd hid (Set.notMem_empty _)
      apart := fun _ _ _ hid => absurd hid (Set.notMem_empty _)
      unshown := fun _ _ hid => absurd hid (Set.notMem_empty _)
      shown := fun _ hx => absurd hx List.not_mem_nil
      told := ⟨fun _ hx => absurd hx List.not_mem_nil, fun _ hx => absurd hx List.not_mem_nil,
        List.nodup_nil⟩ }
  obtain ⟨held, h⟩ := hstart.turns hturns
  exact h.told

end Crowd

end QueueClient
