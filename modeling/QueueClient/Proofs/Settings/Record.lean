/-
# Excerpts of a written record

A record is written as an object with a member for each field.  An excerpt of that object has some
of these members, in any order and among members under other keys (`Json.Excerpt`).  Read as a
record, it gives the fields that it has members for and the usual values elsewhere.

The proof is for any table of fields that takes what is written member by member (`Takes`).  The
invariant of reading is that the record so far is the one that is said so far: a member under the
name of a field adds to what is said, any other changes nothing, and since no field comes twice
nothing is said anew (`Takes.putMembers_eq`).
-/
import Mathlib.Data.List.Forall2
import Mathlib.Tactic
import QueueClient.Settings.Document

namespace QueueClient

namespace Json

variable {same : Json → Json → Prop} {key : String} {members part : List (String × Json)}

/-- What stands under a key of an object. -/
def member? (doc : Json) (key : String) : Option Json :=
  match doc with
  | object members => members.lookup (some key)
  | _ => none

lemma lookup_eq_none {α : Type} {entries : List (String × α)}
    (h : key ∉ entries.map Prod.fst) : entries.lookup key = none := by
  rw [List.lookup_eq_none_iff]
  intro entry hentry
  simpa using fun heq : key = entry.1 => h (heq ▸ List.mem_map_of_mem hentry)

lemma member?_ofMembers : (ofMembers part).member? key = part.lookup key := by
  show (part.map fun m => (some m.1, m.2)).lookup (some key) = _
  induction part with
  | nil => rfl
  | cons m part ih =>
    rw [List.map_cons, List.lookup_cons, List.lookup_cons, ih]
    rfl

lemma ofMembers_injective : Function.Injective ofMembers := by
  intro members members' h
  refine List.map_injective_iff.mpr (fun m m' hm => ?_) (object.inj h)
  rw [Prod.mk.injEq, Option.some.injEq] at hm
  exact Prod.ext hm.1 hm.2

/-- `Excerpt same part whole`: an object has some members of another one, in any order, and members
under keys that the other does not have.  A value of the excerpt may be any that is the `same`. -/
inductive Excerpt (same : Json → Json → Prop) : Json → Json → Prop
  | intro {part whole : List (String × Json)} (kept others : List (String × Json))
      (order : part.Perm (kept ++ others))
      (kept_of : kept.SublistForall₂ (fun m w => m.1 = w.1 ∧ same m.2 w.2) whole)
      (others_new : ∀ m ∈ others, m.1 ∉ whole.map Prod.fst) :
      Excerpt same (ofMembers part) (ofMembers whole)

/-- `Reordered v w`: the same value, but if it is an object, its members may come in another
order. -/
inductive Reordered : Json → Json → Prop
  | refl (v : Json) : Reordered v v
  | members {part whole : List (String × Json)} (order : part.Perm whole) :
      Reordered (ofMembers part) (ofMembers whole)

/-- What is no object is kept as it is. -/
lemma Reordered.eq_of_ne {v w : Json} (h : Reordered v w) (hw : ∀ ms, w ≠ ofMembers ms) :
    v = w := by
  cases h with
  | refl => rfl
  | members order => exact absurd rfl (hw _)

lemma Reordered.eq_null {w : Json} (h : Reordered null w) : w = null := by
  generalize hv : null = v at h
  cases h with
  | refl => rfl
  | members order => exact Json.noConfusion hv

lemma exists_of_sublistForall₂ {α β : Type} {R : α → β → Prop} {as : List α} {bs : List β}
    (h : as.SublistForall₂ R bs) : ∀ a ∈ as, ∃ b ∈ bs, R a b := by
  induction h with
  | nil => simp
  | cons hr _ ih =>
    intro a ha
    rcases List.mem_cons.mp ha with rfl | ha
    · exact ⟨_, List.mem_cons_self, hr⟩
    · obtain ⟨b, hb, hr'⟩ := ih a ha
      exact ⟨b, List.mem_cons_of_mem _ hb, hr'⟩
  | cons_right _ ih =>
    intro a ha
    obtain ⟨b, hb, hr⟩ := ih a ha
    exact ⟨b, List.mem_cons_of_mem _ hb, hr⟩

/-- An object is an excerpt of itself. -/
lemma Excerpt.refl (h : ∀ m ∈ members, same m.2 m.2) :
    Excerpt same (ofMembers members) (ofMembers members) := by
  refine .intro members [] (by rw [List.append_nil]) ?_ (by simp)
  refine List.sublistForall₂_iff.mpr ⟨members, List.forall₂_same.mpr fun m hm => ?_, .refl _⟩
  exact ⟨rfl, h m hm⟩

/-- How the members of an excerpt relate to those of the whole. -/
structure Fits (same : Json → Json → Prop) (members part : List (String × Json)) : Prop where
  /-- No key of the whole comes twice. -/
  once : ((part.map Prod.fst).filter (· ∈ members.map Prod.fst)).Nodup
  /-- Under such a key stands what stands there in the whole. -/
  shows : ∀ m ∈ part, ∀ w, (m.1, w) ∈ members → same m.2 w

/-- **An excerpt fits its whole**, if that has no key twice. -/
lemma Excerpt.fits {doc : Json} (h : Excerpt same doc (ofMembers members))
    (hnodup : (members.map Prod.fst).Nodup) :
    ∃ part, doc = ofMembers part ∧ Fits same members part := by
  generalize hwhole : ofMembers members = whole at h
  cases h with
  | @intro part whole kept others order kept_of others_new =>
    obtain rfl := ofMembers_injective hwhole
    obtain ⟨picked, hkept, hpicked⟩ := List.sublistForall₂_iff.mp kept_of
    have hkeys : kept.map Prod.fst = picked.map Prod.fst := by
      rw [← List.forall₂_eq_eq_eq, List.forall₂_map_left_iff, List.forall₂_map_right_iff]
      exact hkept.imp fun _ _ hm => hm.1
    refine ⟨part, rfl, ?_, fun m hm w hw => ?_⟩
    · have hfilter : (others.map Prod.fst).filter (· ∈ members.map Prod.fst) = [] := by
        rw [List.filter_eq_nil_iff]
        rintro key hkey
        obtain ⟨m, hm, rfl⟩ := List.mem_map.mp hkey
        simpa using others_new m hm
      refine (((order.map Prod.fst).filter _).nodup_iff).mpr ?_
      rw [List.map_append, List.filter_append, hfilter, List.append_nil, hkeys]
      exact (hnodup.sublist (hpicked.map Prod.fst)).filter _
    · rcases List.mem_append.mp (order.mem_iff.mp hm) with hm | hm
      · obtain ⟨w', hw', hkey, hsame⟩ := exists_of_sublistForall₂ kept_of m hm
        have heq : w' = (m.1, w) := List.inj_on_of_nodup_map hnodup hw' hw hkey.symm
        rwa [heq] at hsame
      · exact absurd (List.mem_map_of_mem hw) (others_new m hm)

/-- What stands in an excerpt under a key of the whole. -/
lemma Excerpt.same_of_member? {doc v w : Json} (h : Excerpt same doc (ofMembers members))
    (hnodup : (members.map Prod.fst).Nodup) (hw : (key, w) ∈ members)
    (hv : doc.member? key = some v) : same v w := by
  obtain ⟨part, rfl, hfits⟩ := h.fits hnodup
  rw [member?_ofMembers, List.lookup_eq_some_iff] at hv
  obtain ⟨before, after, rfl, -⟩ := hv
  exact hfits.shows (key, v) (List.mem_append_right _ List.mem_cons_self) w hw

lemma Fits.tail {m : String × Json} (h : Fits same members (m :: part)) :
    Fits same members part where
  once := h.once.sublist ((List.sublist_cons_self _ _).filter _)
  shows m' hm' := h.shows m' (List.mem_cons_of_mem _ hm')

/-- Under a key of the whole nothing stands twice. -/
lemma Fits.notMem {m : String × Json} (h : Fits same members (m :: part))
    (hkey : m.1 ∈ members.map Prod.fst) : m.1 ∉ part.map Prod.fst := by
  intro hmem
  have honce := h.once
  rw [List.map_cons, List.filter_cons_of_pos (by simpa using hkey), List.nodup_cons] at honce
  exact honce.1 (List.mem_filter.mpr ⟨hmem, by simpa using hkey⟩)

end Json

namespace Settings

variable {α : Type} {fields : List (Field α)} {same : Json → Json → Prop}
  {record : (String → Option Json) → α} {members part : List (String × Json)}

/-- The fields of a record take what stands for them in an object with these `members`: `record` is
the record as far as something is said under the names of its fields, and a field adds to that what
is said under its name. -/
structure Takes (fields : List (Field α)) (same : Json → Json → Prop)
    (record : (String → Option Json) → α) (members : List (String × Json)) : Prop where
  nodup : (members.map Prod.fst).Nodup
  congr : ∀ said said', (∀ key ∈ members.map Prod.fst, said key = said' key) →
    record said = record said'
  puts : List.Forall₂ (fun f m => f.1 = m.1 ∧ ∀ v, same v m.2 → ∀ said,
    f.2 v (record said) = some (record (Function.update said m.1 (some v)))) fields members

namespace Takes

/-- Anything else is no field. -/
lemma lookup_eq_none (h : Takes fields same record members) {key : String}
    (hkey : key ∉ members.map Prod.fst) : fields.lookup key = none := by
  have hnames : fields.map Prod.fst = members.map Prod.fst := by
    rw [← List.forall₂_eq_eq_eq, List.forall₂_map_left_iff, List.forall₂_map_right_iff]
    exact h.puts.imp fun _ _ hf => hf.1
  exact Json.lookup_eq_none (hnames ▸ hkey)

/-- Under each name of a member there is a field that takes its value. -/
lemma exists_lookup (h : Takes fields same record members) {m : String × Json}
    (hm : m ∈ members) : ∃ put, fields.lookup m.1 = some put ∧ ∀ v, same v m.2 → ∀ said,
      put v (record said) = some (record (Function.update said m.1 (some v))) := by
  obtain ⟨hnodup, -, hputs⟩ := h
  induction hputs with
  | nil => exact absurd hm List.not_mem_nil
  | @cons f w fields members hf _ ih =>
    rw [List.map_cons, List.nodup_cons] at hnodup
    rcases List.mem_cons.mp hm with rfl | hm
    · exact ⟨f.2, by rw [List.lookup_cons, hf.1, beq_self_eq_true], hf.2⟩
    · have hne : (m.1 == f.1) = false := by
        rw [beq_eq_false_iff_ne, hf.1]
        exact fun heq => hnodup.1 (heq ▸ List.mem_map_of_mem hm)
      rw [List.lookup_cons, hne]
      exact ih hm hnodup.2

/-- **Reading adds what the members say** to what has been said. -/
lemma putMembers_eq (h : Takes fields same record members) :
    ∀ {part : List (String × Json)} {seen : List String} {said : String → Option Json},
      Json.Fits same members part → (∀ key ∈ seen, key ∉ part.map Prod.fst) →
      putMembers fields seen (record said) (part.map fun m => (some m.1, m.2)) =
        some (record fun key => (part.lookup key).or (said key))
  | [], seen, said, _, _ => rfl
  | (key, v) :: part, seen, said, hfits, hseen => by
    have htail : ∀ k ∈ seen, k ∉ part.map Prod.fst := fun k hk hmem =>
      hseen k hk (List.mem_cons_of_mem _ hmem)
    rw [List.map_cons, putMembers]
    by_cases hkey : key ∈ members.map Prod.fst
    · obtain ⟨w, hw⟩ : ∃ w, (key, w) ∈ members := by simpa using hkey
      obtain ⟨put, hlookup, hput⟩ := h.exists_lookup hw
      have hnew : key ∉ part.map Prod.fst := hfits.notMem hkey
      have hseen' : ¬ seen.contains key = true := fun hmem =>
        hseen key (List.contains_iff_mem.mp hmem) List.mem_cons_self
      have htail' : ∀ k ∈ key :: seen, k ∉ part.map Prod.fst := by
        rintro k (_ | ⟨_, hk⟩)
        exacts [hnew, htail k hk]
      rw [hlookup]
      simp only [if_neg hseen', hput v (hfits.shows _ List.mem_cons_self w hw)]
      rw [h.putMembers_eq hfits.tail htail']
      refine congrArg some (h.congr _ _ fun k _ => ?_)
      by_cases hk : k = key
      · rw [hk, Json.lookup_eq_none hnew, Function.update_self, List.lookup_cons_self]
        rfl
      · rw [Function.update_of_ne hk, List.lookup_cons, beq_false_of_ne hk]
    · rw [h.lookup_eq_none hkey]
      simp only
      rw [h.putMembers_eq hfits.tail htail]
      refine congrArg some (h.congr _ _ fun k hk => ?_)
      have hne : k ≠ key := fun heq => hkey (heq ▸ hk)
      rw [List.lookup_cons, beq_false_of_ne hne]

/-- **An excerpt says what the record is read from it**: the fields that it has members for, over
the record of which nothing is said. -/
lemma readRecord_eq (record : (String → Option Json) → α)
    (h : Takes fields same record members) {doc : Json}
    (hdoc : Json.Excerpt same doc (.ofMembers members)) :
    readRecord fields (record fun _ => none) doc = some (record doc.member?) := by
  obtain ⟨part, rfl, hfits⟩ := hdoc.fits h.nodup
  refine (h.putMembers_eq hfits (by simp)).trans (congrArg some (h.congr _ _ fun key _ => ?_))
  rw [Json.member?_ofMembers, Option.or_none]

end Takes

end Settings

end QueueClient
