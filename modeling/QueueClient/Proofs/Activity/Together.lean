/-
# Activities side by side

Several activities go on in one world.  Which of them goes next is open, and so is what happens in
between: the clock moves, tokens are cancelled, other activities make up ids.  All that is asked of
the ids is that none is made up twice.  `Crowd.Turns` are the courses that this can take, with the
calls of the last stage that are noted on the way, each under the number of the activity that makes
it.  The run of one activity is such a course (`Crowd.turns_run`), so runs one after the other are,
too.
-/
import QueueClient.Proofs.Stage.Calls
import QueueClient.Proofs.Text.Numeral

namespace QueueClient

/-! ## Made-up ids -/

namespace World

/-- The digits of a request id are behind what all of them begin with. -/
lemma exists_requestId_eq : ∃ front : String, ∀ n, requestId n = front ++
    String.ofList (List.replicate (12 - (Nat.toDigits 16 n).length) '0' ++ Nat.toDigits 16 n) :=
  ⟨"00000000-0000-4000-8000-", fun _ => rfl⟩

/-- **No request id is made up twice.** -/
theorem requestId_injective : Function.Injective requestId := by
  intro m n h
  obtain ⟨front, hfront⟩ := exists_requestId_eq
  rw [hfront, hfront] at h
  have hdigits := congrArg String.toList h
  rw [String.toList_append, String.toList_append, String.toList_ofList, String.toList_ofList,
    List.append_cancel_left_eq] at hdigits
  have hread := congrArg (Text.numeral? 16) hdigits
  rwa [Text.numeral?_zeros (by decide), Text.numeral?_zeros (by decide),
    Text.numeral?_toDigits (by decide) (by decide), Text.numeral?_toDigits (by decide) (by decide),
    Option.some.injEq] at hread

/-- The first request ids, last one first. -/
def requestIds : ℕ → List String
  | 0 => []
  | n + 1 => requestId (n + 1) :: requestIds n

lemma requestId_not_mem {k n : ℕ} (h : n < k) : requestId k ∉ requestIds n := by
  induction n with
  | zero => exact List.not_mem_nil
  | succ n ih =>
    rw [requestIds, List.mem_cons, not_or]
    exact ⟨fun heq => h.ne' (requestId_injective heq), ih (Nat.lt_of_succ_lt h)⟩

end World

/-! ## Crowds -/

/-- Activities that go on in one world. -/
structure Crowd (α : Type) where
  /-- The world. -/
  world : World
  /-- What is left of each activity. -/
  members : List (Activity α)
  /-- The ids that were made up, by whomever. -/
  ids : List String

namespace Crowd

/-- What may happen next, with the call that is noted if one is. -/
inductive Turn {α : Type} : Crowd α → List (ℕ × Call) → Crowd α → Prop
  /-- A member performs an act. -/
  | act {w : World} {ms : List (Activity α)} {ids : List String} {i : ℕ} {a : Act}
      {k : a.Answer → Activity α} : ms[i]? = some (.act a k) → a ≠ .newId →
      Turn ⟨w, ms, ids⟩ ((Event.acts a w).call?.toList.map (Prod.mk i))
        ⟨(w.perform a).2, ms.set i (k (w.perform a).1), ids⟩
  /-- A member is given an id that was not made up before. -/
  | newId {w : World} {ms : List (Activity α)} {ids : List String} {i : ℕ}
      {k : String → Activity α} {id : String} : ms[i]? = some (.act .newId k) → id ∉ ids →
      Turn ⟨w, ms, ids⟩ [] ⟨(w.perform .newId).2, ms.set i (k id), id :: ids⟩
  /-- A member goes on after a wait. -/
  | wake {w : World} {ms : List (Activity α)} {ids : List String} {i : ℕ} {wake : Wake}
      {k : Activity α} : ms[i]? = some (.wait wake k) → wake.isDueIn w = true →
      Turn ⟨w, ms, ids⟩ [] ⟨w, ms.set i k, ids⟩
  /-- Something else happens in the world, and others make up ids. -/
  | elsewhere {w : World} {ms : List (Activity α)} {ids : List String} (v : World)
      (more : List String) : Turn ⟨w, ms, ids⟩ [] ⟨v, ms, more ++ ids⟩

/-- Any number of turns, with the calls that are noted. -/
inductive Turns {α : Type} : Crowd α → List (ℕ × Call) → Crowd α → Prop
  /-- None. -/
  | none (c : Crowd α) : Turns c [] c
  /-- One more. -/
  | next {c c' c'' : Crowd α} {calls more : List (ℕ × Call)} : Turns c calls c' →
      Turn c' more c'' → Turns c (calls ++ more) c''

variable {α : Type} {c c' c'' : Crowd α} {calls more : List (ℕ × Call)}
  {ms : List (Activity α)} {i : ℕ}

lemma Turn.turns (h : Turn c calls c') : Turns c calls c' := (Turns.none c).next h

lemma Turns.trans (h : Turns c calls c') (h' : Turns c' more c'') :
    Turns c (calls ++ more) c'' := by
  induction h' with
  | none => rwa [List.append_nil]
  | next _ hturn ih =>
    rw [← List.append_assoc]
    exact ih.next hturn

/-- Turns are taken by members, and members stay in their places. -/
lemma Turn.members (h : Turn c calls c') :
    c'.members.length = c.members.length ∧ ∀ x ∈ calls, x.1 < c.members.length := by
  cases h with
  | act hi =>
    refine ⟨List.length_set, fun x hx => ?_⟩
    obtain ⟨call, -, rfl⟩ := List.mem_map.mp hx
    exact (List.getElem?_eq_some_iff.mp hi).1
  | newId => exact ⟨List.length_set, fun _ hx => absurd hx List.not_mem_nil⟩
  | wake => exact ⟨List.length_set, fun _ hx => absurd hx List.not_mem_nil⟩
  | elsewhere => exact ⟨rfl, fun _ hx => absurd hx List.not_mem_nil⟩

lemma Turns.members (h : Turns c calls c') :
    c'.members.length = c.members.length ∧ ∀ x ∈ calls, x.1 < c.members.length := by
  induction h with
  | none => exact ⟨rfl, fun _ hx => absurd hx List.not_mem_nil⟩
  | next _ hturn ih =>
    refine ⟨hturn.members.1.trans ih.1, fun x hx => ?_⟩
    rcases List.mem_append.mp hx with hx | hx
    · exact ih.2 x hx
    · exact ih.1 ▸ hturn.members.2 x hx

/-! ## Runs are turns -/

/-- Other acts make up no id. -/
lemma idsMade_perform {a : Act} (ha : a ≠ .newId) (w : World) :
    (w.perform a).2.idsMade = w.idsMade := by
  cases a with
  | newId => exact absurd rfl ha
  | _ => rfl

lemma set_eq_self {p : Activity α} (hp : ms[i]? = some p) : ms.set i p = ms := by
  obtain ⟨hi, rfl⟩ := List.getElem?_eq_some_iff.mp hp
  exact List.set_getElem_self hi

lemma getElem?_set {p q : Activity α} (hp : ms[i]? = some p) : (ms.set i q)[i]? = some q :=
  List.getElem?_set_self (List.getElem?_eq_some_iff.mp hp).1

/-- **A run is one course that turns can take**: a member that runs by itself makes the calls of its
run, and is done if its run comes to an end. -/
theorem turns_run {p : Activity α} (hp : ms[i]? = some p) (w : World) :
    ∃ q, Turns ⟨w, ms, World.requestIds w.idsMade⟩ ((p.calls w).map (Prod.mk i))
        ⟨(p.run w).2, ms.set i q, World.requestIds (p.run w).2.idsMade⟩ ∧
      ∀ a, (p.run w).1 = some a → q = .done a := by
  induction p generalizing w ms with
  | done a =>
    refine ⟨.done a, ?_, fun b hb => by rw [Option.some.inj hb]⟩
    rw [set_eq_self hp]
    exact .none _
  | never =>
    refine ⟨.never, ?_, fun b hb => nomatch hb⟩
    rw [set_eq_self hp]
    exact .none _
  | abort =>
    refine ⟨.abort, ?_, fun b hb => nomatch hb⟩
    rw [set_eq_self hp]
    exact .none _
  | act a k ih =>
    by_cases ha : a = .newId
    · subst ha
      obtain ⟨q, hturns, hq⟩ := ih _ (getElem?_set hp) (w.perform .newId).2
      refine ⟨q, ?_, hq⟩
      rw [List.set_set] at hturns
      have hturn := Turn.newId (w := w) hp (World.requestId_not_mem (Nat.lt_succ_self w.idsMade))
      exact hturn.turns.trans hturns
    · obtain ⟨q, hturns, hq⟩ := ih _ (getElem?_set hp) (w.perform a).2
      refine ⟨q, ?_, hq⟩
      rw [List.set_set, idsMade_perform ha] at hturns
      rw [Activity.calls_eq_seen, Activity.seen_act, List.map_append, ← Activity.calls_eq_seen]
      exact (Turn.act hp ha).turns.trans hturns
  | wait wake k ih =>
    cases hs : w.sleep wake with
    | none =>
      refine ⟨.wait wake k, ?_, fun b hb => ?_⟩
      · rw [set_eq_self hp, Activity.calls_eq_seen, Activity.seen_wait_of_none (fun _ => rfl) hs,
          Activity.run_wait_of_none hs]
        exact .none _
      · rw [Activity.run_wait_of_none hs] at hb
        exact nomatch hb
    | some v =>
      obtain ⟨q, hturns, hq⟩ := ih (getElem?_set hp) v
      have hids : v.idsMade = w.idsMade := by rw [(World.passes_of_sleep hs).rest]
      refine ⟨q, ?_, by rwa [Activity.run_wait_of_some hs]⟩
      rw [List.set_set, hids] at hturns
      rw [Activity.calls_eq_seen, Activity.seen_wait_of_some (fun _ => rfl) hs,
        ← Activity.calls_eq_seen, Activity.run_wait_of_some hs]
      -- the clock moves on, and then the member does
      have hpause : Turn (⟨w, ms, World.requestIds w.idsMade⟩ : Crowd α) []
          ⟨v, ms, World.requestIds w.idsMade⟩ := .elsewhere v []
      exact (hpause.turns.next (.wake hp (World.isDueIn_of_sleep hs))).trans hturns

end Crowd

end QueueClient
