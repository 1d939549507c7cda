/-
# Keys that are replaced under way

The key of an account can be replaced at any time, also while a request is under way.  A stage in
the place of the last one does so here: with each call it replaces the key by those that some texts
hold, before anything else (`Callee.rotating`), and the stages above it do not touch the key.

Whoever is called has to find the key that was stored last.  To say so of a whole run, the keys that
are still to be stored are followed along the activity (`Activity.Rotates`): a call adds those of
its texts, storing takes them off one by one, and nothing waits or ends while there are any left.
-/
import QueueClient.Proofs.Credential.Signing
import QueueClient.Proofs.Stage.Calls

namespace QueueClient

/-! ## Calls that replace the key -/

/-- The key that a text holds: the bytes that it is the Base64 form of, if there are any. -/
def heldKey? (text : String) : Option (List UInt8) :=
  match Base64.decode (Utf8.encode (Text.trim text)) with
  | .ok [] | .error _ => none
  | .ok (b :: bytes) => some (b :: bytes)

/-- The key after calls with some texts, given the key before them: that of the last text that holds
one. -/
def lastKey (texts : List String) (key : List UInt8) : List UInt8 :=
  (texts.filterMap heldKey?).getLast?.getD key

/-- Calls with some texts, one after the other, whatever comes of them. -/
def Credential.replaceKeys : List String → Activity Unit
  | [] => .done ()
  | text :: texts => (replaceKey text).bind fun _ => replaceKeys texts

/-- The stage that replaces the key whenever it is called, and then does what another one does. -/
def Callee.rotating (callee : Callee) (texts : ℕ → List String) : Callee where
  answer n c r := (Credential.replaceKeys (texts n)).bind fun _ => callee.answer n c r
  quiet n c r := by
    have hreplace : ∀ texts, (Credential.replaceKeys texts).Quiet := fun texts => by
      induction texts with
      | nil => trivial
      | cons text texts ih =>
        rw [Credential.replaceKeys, Credential.replaceKey]
        split
        · exact ⟨trivial, fun _ => ih⟩
        · exact ih
    exact Activity.All.bind (hreplace _) fun _ => callee.quiet n c r

lemma heldKey?_eq (text : String) : heldKey? text = (accountKey? text).toOption := by
  rw [accountKey?, heldKey?]
  cases Base64.decode (Utf8.encode (Text.trim text)) with
  | error f => rfl
  | ok key => cases key <;> rfl

/-- A call either succeeds and stores the key that its text holds, or fails and changes nothing. -/
theorem Credential.run_replaceKey (text : String) (w : World) :
    (∃ e, heldKey? text = none ∧ (replaceKey text).run w = (some (.error e), w)) ∨
      ∃ key, heldKey? text = some key ∧
        (replaceKey text).run w = (some (.ok ()), { w with accountKey := key }) := by
  rw [heldKey?_eq, replaceKey]
  cases accountKey? text with
  | error e => exact Or.inl ⟨e, rfl, rfl⟩
  | ok key => exact Or.inr ⟨key, rfl, rfl⟩

lemma lastKey_cons (text : String) (texts : List String) (key : List UInt8) :
    lastKey (text :: texts) key = lastKey texts ((heldKey? text).getD key) := by
  rw [lastKey, lastKey, List.filterMap_cons]
  cases heldKey? text with
  | none => rfl
  | some stored => rw [List.getLast?_cons, Option.getD_some, Option.getD_some]

/-- After calls with some texts the key is that of the last one that was successful. -/
lemma Credential.run_replaceKeys (texts : List String) (w : World) :
    (replaceKeys texts).run w = (some (), { w with accountKey := lastKey texts w.accountKey }) := by
  induction texts generalizing w with
  | nil => rfl
  | cons text texts ih =>
    rw [replaceKeys, lastKey_cons]
    rcases run_replaceKey text w with ⟨e, hkey, hrun⟩ | ⟨key, hkey, hrun⟩
    · rw [Activity.run_bind_of_some hrun, ih, hkey, Option.getD_none]
    · rw [Activity.run_bind_of_some hrun, ih, hkey, Option.getD_some]

/-! ## The key along a run -/

/-- The act neither stores a key nor is the note of a call. -/
def Act.SparesKey : Act → Prop
  | .storeKey _ | .arrive _ _ => False
  | _ => True

/-- What is left of the keys to be stored when the act is answered, if the act is in order: those
that a call brings if there was nothing to be stored, and the others when the first is stored. -/
def Act.keysLeft (keys : ℕ → List (List UInt8)) :
    (a : Act) → List (List UInt8) → a.Answer → Option (List (List UInt8))
  | .storeKey key, pending, _ => if pending.head? = some key then some pending.tail else none
  | .arrive _ _, pending, n => if pending = [] then some (keys n) else none
  | _, pending, _ => some pending

lemma Act.sparesKey_or (a : Act) :
    a.SparesKey ∨ (∃ key, a = .storeKey key) ∨ ∃ c r, a = .arrive c r := by
  cases a with
  | storeKey key => exact Or.inr (Or.inl ⟨key, rfl⟩)
  | arrive c r => exact Or.inr (Or.inr ⟨c, r, rfl⟩)
  | _ => exact Or.inl trivial

lemma Act.SparesKey.isQuiet {a : Act} (h : a.SparesKey) : a.IsQuiet := by
  cases a with
  | arrive c r => exact h
  | _ => trivial

lemma World.perform_of_sparesKey {a : Act} (h : a.SparesKey) (w : World) :
    (w.perform a).2.accountKey = w.accountKey ∧ (w.perform a).2.arrivals = w.arrivals := by
  cases a with
  | storeKey key => exact absurd h id
  | arrive c r => exact absurd h id
  | _ => exact ⟨rfl, rfl⟩

lemma Act.SparesKey.keysLeft_eq {a : Act} (h : a.SparesKey) (keys : ℕ → List (List UInt8))
    (pending : List (List UInt8)) (x : a.Answer) : a.keysLeft keys pending x = some pending := by
  cases a with
  | storeKey key => exact absurd h id
  | arrive c r => exact absurd h id
  | _ => rfl

namespace Activity

variable {α β : Type} {keys : ℕ → List (List UInt8)} {pending : List (List UInt8)}
  {p : Activity α} {w v : World}

/-- With each call the activity stores the keys for its number, at once and in order, and it stores
no others; some are to be stored at its beginning. -/
def Rotates (keys : ℕ → List (List UInt8)) : List (List UInt8) → Activity α → Prop
  | pending, done _ => pending = []
  | pending, act a k => ∀ x, ∃ rest, a.keysLeft keys pending x = some rest ∧ Rotates keys rest (k x)
  | pending, wait _ k => pending = [] ∧ Rotates keys [] k
  | pending, never => pending = []
  | pending, abort => pending = []

namespace Rotates

/-- An act that has nothing to do with keys. -/
lemma act {a : Act} (ha : a.SparesKey) {k : a.Answer → Activity α}
    (h : ∀ x, Rotates keys pending (k x)) : Rotates keys pending (act a k) :=
  fun x => ⟨pending, ha.keysLeft_eq keys pending x, h x⟩

lemma of_all (h : p.All Act.SparesKey) : Rotates keys [] p := by
  induction p with
  | done a => exact rfl
  | act a k ih => exact act h.1 fun x => ih x (h.2 x)
  | wait wake k ih => exact ⟨rfl, ih h⟩
  | never | abort => exact rfl

lemma bind {f : α → Activity β} (hp : Rotates keys pending p) (hf : ∀ a, Rotates keys [] (f a)) :
    Rotates keys pending (p.bind f) := by
  induction p generalizing pending with
  | done a =>
    obtain rfl : pending = [] := hp
    exact hf a
  | act a k ih =>
    intro x
    obtain ⟨rest, hrest, hk⟩ := hp x
    exact ⟨rest, hrest, ih x hk⟩
  | wait wake k ih => exact ⟨hp.1, ih hp.2⟩
  | never | abort => exact hp

lemma watch {c : Context} (hp : Rotates keys pending p) : Rotates keys pending (p.watch c) := by
  induction p generalizing pending with
  | done a => exact hp
  | act a k ih =>
    intro x
    obtain ⟨rest, hrest, hk⟩ := hp x
    exact ⟨rest, hrest, ih x hk⟩
  | wait wake k ih =>
    obtain ⟨rfl, hk⟩ := hp
    refine act (a := .firstDue c.endings) trivial ?_
    rintro (_ | r)
    · refine ⟨rfl, act (a := .firstDue c.endings) trivial ?_⟩
      rintro (_ | r)
      · exact ih hk
      · exact rfl
    · exact rfl
  | never =>
    obtain rfl : pending = [] := hp
    exact of_all (All.watch (p := never) trivial trivial)
  | abort => exact hp

lemma untilDone {c : Context} (hp : Rotates keys [] p) : Rotates keys [] (p.untilDone c) := by
  refine act (a := .firstDue c.endings) trivial ?_
  rintro (_ | r)
  · exact hp.watch
  · exact rfl

lemma timeoutAt {t : ℕ} (hp : Rotates keys pending p) : Rotates keys pending (p.timeoutAt t) := by
  induction p generalizing pending with
  | done a => exact hp
  | act a k ih =>
    intro x
    obtain ⟨rest, hrest, hk⟩ := hp x
    exact ⟨rest, hrest, ih x hk⟩
  | wait wake k ih =>
    obtain ⟨rfl, hk⟩ := hp
    refine act (a := .isDue (.ofTimer t)) trivial ?_
    rintro (_ | _)
    · refine ⟨rfl, act (a := .isDue wake) trivial ?_⟩
      rintro (_ | _)
      · exact rfl
      · exact ih hk
    · exact rfl
  | never =>
    obtain rfl : pending = [] := hp
    exact of_all (All.timeoutAt (p := never) (fun _ => trivial) trivial)
  | abort => exact hp

lemma of_replaceKey {text : String} {f : Except Error Unit → Activity α}
    (hp : p = (Credential.replaceKey text).bind f) (h : ∀ x, Rotates keys pending (f x)) :
    Rotates keys ((heldKey? text).toList ++ pending) p := by
  rw [hp, Credential.replaceKey, heldKey?_eq]
  generalize accountKey? text = x
  cases x with
  | error e => exact h _
  | ok key =>
    have hstored : (Act.storeKey key).keysLeft keys (key :: pending) () = some pending := by
      simp [Act.keysLeft]
    exact fun _ => ⟨pending, hstored, h _⟩

lemma of_replaceKeys {texts : List String} {p : Activity Unit}
    (hp : p = Credential.replaceKeys texts) : Rotates keys (texts.filterMap heldKey?) p := by
  induction texts generalizing p with
  | nil =>
    rw [hp]
    exact rfl
  | cons text texts ih =>
    have hpending : (text :: texts).filterMap heldKey? =
        (heldKey? text).toList ++ texts.filterMap heldKey? := by
      rw [List.filterMap_cons]
      generalize heldKey? text = key
      cases key <;> rfl
    rw [Credential.replaceKeys] at hp
    rw [hpending]
    exact of_replaceKey hp fun _ => ih rfl

/-- **A call finds the key that was stored last**: of those that the calls before it have brought,
or the one from the beginning. -/
theorem accountKey_of_call (hp : Rotates keys pending p) {n : ℕ} {call : Call}
    (h : (p.calls w)[n]? = some call) :
    call.world.accountKey = (pending ++ (List.range n).flatMap fun i =>
      keys (w.arrivals.length + i)).getLast?.getD w.accountKey := by
  induction p generalizing w pending n with
  | done a => cases h
  | act a k ih =>
    obtain ⟨rest, hrest, hk⟩ := hp (w.perform a).1
    rcases a.sparesKey_or with ha | ⟨key, rfl⟩ | ⟨c, r, rfl⟩
    · obtain rfl : pending = rest :=
        Option.some.inj ((ha.keysLeft_eq keys pending _).symm.trans hrest)
      obtain ⟨hkey, harrivals⟩ := World.perform_of_sparesKey ha w
      rw [calls_act ha.isQuiet] at h
      rw [ih _ hk h, hkey, harrivals]
    · rw [calls_act (a := .storeKey key) trivial] at h
      rw [ih _ hk h]
      -- the first key has been stored, and the others are left
      obtain ⟨hhead, rfl⟩ : pending.head? = some key ∧ pending.tail = rest := by
        simpa [Act.keysLeft] using hrest
      rw [List.eq_cons_of_mem_head? hhead, List.cons_append, List.getLast?_cons, Option.getD_some]
      rfl
    · obtain ⟨rfl, rfl⟩ : pending = [] ∧ keys w.arrivals.length = rest := by
        simpa [Act.keysLeft, World.perform] using hrest
      rw [calls_arrive] at h
      cases n with
      | zero =>
        obtain rfl := Option.some.inj h
        rfl
      | succ n =>
        have hlength : (w.perform (.arrive c r)).2.arrivals.length = w.arrivals.length + 1 := by
          simp [World.perform]
        rw [ih _ hk h, hlength, List.nil_append, List.range_succ_eq_map, List.flatMap_cons,
          List.flatMap_map]
        simp only [Nat.add_zero, Nat.add_assoc, Nat.add_comm 1]
        rfl
  | wait wake k ih =>
    obtain ⟨rfl, hk⟩ := hp
    cases hs : w.sleep wake with
    | none =>
      rw [calls_eq_seen, seen_wait_of_none overlooks_call.waits hs] at h
      cases h
    | some u =>
      rw [calls_eq_seen, seen_wait_of_some overlooks_call.waits hs, ← calls_eq_seen] at h
      have hrest := (World.passes_of_sleep hs).rest
      rw [ih hk h, hrest]
  | never | abort => cases h

end Rotates

end Activity

/-- A stage that replaces the key whenever it is called, and does not touch it otherwise. -/
lemma Callee.rotates_rotating {callee : Callee}
    (h : ∀ n c r, (callee.answer n c r).All Act.SparesKey) (texts : ℕ → List String) (c : Context)
    (r : Request) :
    Activity.Rotates (fun n => (texts n).filterMap heldKey?) []
      ((callee.rotating texts).stage c r) :=
  fun n => by
  have hbrought : (Act.arrive c r).keysLeft (fun n => (texts n).filterMap heldKey?) [] n =
      some ((texts n).filterMap heldKey?) := by simp [Act.keysLeft]
  exact ⟨_, hbrought, (Activity.Rotates.of_replaceKeys rfl).bind fun _ => .of_all (h n c r)⟩

end QueueClient
