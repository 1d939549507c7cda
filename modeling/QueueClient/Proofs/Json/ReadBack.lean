/-
# Every JSON value is read back

A value is written so that its first sign tells what it is: it is no blank, no sign that stands
behind values, and only numbers begin like numbers.  So reading takes the branch that the value was
written by.  For each branch there is an equation (`readValue_cons`, `readItems_cons`,
`readMembers_cons`) in which nothing is left to skip and to match, and a rule that follows from it.
The main statement goes through the rules by recursion on the value, in front of any rest that ends
values (`reads_write`).
-/
import QueueClient.Proofs.Json.Scalars

namespace QueueClient.Json

variable {cs after rest : List Char} {c : Char} {v : Json} {vs : List Json} {key : Option String}
  {ms : List (Option String × Json)}

/-! ## One step of reading -/

lemma skip_cons (h : isSpace c = false) (cs : List Char) : skip (c :: cs) = c :: cs := by
  rw [skip, List.dropWhile_cons, h, if_neg Bool.false_ne_true]

/-- Reading a value, by the sign that it begins with. -/
lemma readValue_cons (h : isSpace c = false) (cs : List Char) :
    readValue (c :: cs) =
      if c = '"' then (readText cs).map fun (s, r) => (.text s, r.weaken (by simp))
      else if c = '[' then
        match hskip : skip cs with
        | ']' :: after => some (.array [], ⟨after, show after.length < (c :: cs).length from
            Nat.lt_succ_of_lt (length_lt_of_skip hskip)⟩)
        | _ => (readItems cs).map fun (vs, r) => (.array vs, r.weaken (by simp))
      else if c = '\x7b' then
        match hskip : skip cs with
        | '\x7d' :: after => some (.object [], ⟨after, show after.length < (c :: cs).length from
            Nat.lt_succ_of_lt (length_lt_of_skip hskip)⟩)
        | _ => (readMembers cs).map fun (ms, r) => (.object ms, r.weaken (by simp))
      else (readScalar (c :: cs)).map fun (v, r) => (v, r.weaken (Nat.le_refl _)) := by
  have hskip := skip_cons h cs
  rw [readValue]
  split
  · simp_all
  · rename_i hskip'
    obtain ⟨rfl, rfl⟩ := List.cons.inj (hskip.symm.trans hskip')
    rfl

/-- Reading items, by the sign that stands behind the first one. -/
lemma readItems_cons {hlt} (heq : readValue cs = some (v, ⟨c :: after, hlt⟩))
    (h : isSpace c = false) :
    readItems cs =
      if c = ',' then (readItems after).map fun (vs, r) =>
        (v :: vs, r.weaken (by simp at hlt; omega))
      else if c = ']' then some ([v], ⟨after, by simp at hlt; omega⟩)
      else none := by
  have hskip := skip_cons h after
  rw [readItems, heq]
  simp only
  split <;> rename_i hskip'
  · obtain ⟨rfl, rfl⟩ := List.cons.inj (hskip.symm.trans hskip')
    rfl
  · obtain ⟨rfl, rfl⟩ := List.cons.inj (hskip.symm.trans hskip')
    rfl
  · simp_all

/-- Reading members, by the sign that stands behind the first one. -/
lemma readMembers_cons {cs' : List Char} {hlt hlt'}
    (hkey : readText cs = some (key, ⟨':' :: cs', hlt⟩))
    (heq : readValue cs' = some (v, ⟨c :: after, hlt'⟩)) (h : isSpace c = false) :
    readMembers ('"' :: cs) =
      if c = ',' then (readMembers after).map fun (ms, r) =>
        ((key, v) :: ms, r.weaken (by simp at hlt hlt' ⊢; omega))
      else if c = '\x7d' then some ([(key, v)], ⟨after, by simp at hlt hlt' ⊢; omega⟩)
      else none := by
  have hquote := skip_cons (c := '"') (by decide) cs
  have hcolon := skip_cons (c := ':') (by decide) cs'
  have hskip := skip_cons h after
  rw [readMembers]
  split <;> rename_i hquote'
  · obtain ⟨-, rfl⟩ := List.cons.inj (hquote.symm.trans hquote')
    rw [hkey]
    simp only
    split <;> rename_i hcolon'
    · obtain ⟨-, rfl⟩ := List.cons.inj (hcolon.symm.trans hcolon')
      rw [heq]
      simp only
      split <;> rename_i hskip'
      · obtain ⟨rfl, rfl⟩ := List.cons.inj (hskip.symm.trans hskip')
        rfl
      · obtain ⟨rfl, rfl⟩ := List.cons.inj (hskip.symm.trans hskip')
        rfl
      · simp_all
    · simp_all
  · simp_all

/-! ## Rules of reading -/

namespace Reads

lemma value_text {s : Option String} (h : Reads readText cs s rest) :
    Reads readValue ('"' :: cs) (.text s) rest := by
  obtain ⟨hlt, heq⟩ := h
  refine ⟨by simp; omega, ?_⟩
  rw [readValue_cons (by decide), if_pos rfl, heq]
  rfl

lemma value_scalar (hspace : isSpace c = false) (hc : c ≠ '"' ∧ c ≠ '[' ∧ c ≠ '\x7b')
    (h : Reads readScalar (c :: cs) v rest) : Reads readValue (c :: cs) v rest := by
  obtain ⟨hlt, heq⟩ := h
  refine ⟨hlt, ?_⟩
  rw [readValue_cons hspace, if_neg hc.1, if_neg hc.2.1, if_neg hc.2.2, heq]
  rfl

lemma value_array (h : Reads readItems cs vs rest) (hne : ∀ after, skip cs ≠ ']' :: after) :
    Reads readValue ('[' :: cs) (.array vs) rest := by
  obtain ⟨hlt, heq⟩ := h
  refine ⟨by simp; omega, ?_⟩
  rw [readValue_cons (by decide), if_neg (by decide), if_pos rfl]
  split <;> rename_i hskip
  · exact absurd hskip (hne _)
  · rw [heq]
    rfl

lemma value_object (h : Reads readMembers cs ms rest) (hne : ∀ after, skip cs ≠ '\x7d' :: after) :
    Reads readValue ('\x7b' :: cs) (.object ms) rest := by
  obtain ⟨hlt, heq⟩ := h
  refine ⟨by simp; omega, ?_⟩
  rw [readValue_cons (by decide), if_neg (by decide), if_neg (by decide), if_pos rfl]
  split <;> rename_i hskip
  · exact absurd hskip (hne _)
  · rw [heq]
    rfl

lemma items_last (h : Reads readValue cs v (']' :: rest)) : Reads readItems cs [v] rest := by
  obtain ⟨hlt, heq⟩ := h
  refine ⟨by simp at hlt; omega, ?_⟩
  rw [readItems_cons heq (by decide), if_neg (by decide), if_pos rfl]

lemma items_more (h : Reads readValue cs v (',' :: after)) (h' : Reads readItems after vs rest) :
    Reads readItems cs (v :: vs) rest := by
  obtain ⟨hlt, heq⟩ := h
  obtain ⟨hlt', heq'⟩ := h'
  refine ⟨by simp at hlt; omega, ?_⟩
  rw [readItems_cons heq (by decide), if_pos rfl, heq']
  rfl

variable {cs' : List Char} (hkey : Reads readText cs key (':' :: cs'))

include hkey

lemma members_last (h : Reads readValue cs' v ('\x7d' :: rest)) :
    Reads readMembers ('"' :: cs) [(key, v)] rest := by
  obtain ⟨hlt, heq⟩ := hkey
  obtain ⟨hlt', heq'⟩ := h
  refine ⟨by simp at hlt hlt' ⊢; omega, ?_⟩
  rw [readMembers_cons heq heq' (by decide), if_neg (by decide), if_pos rfl]

lemma members_more (h : Reads readValue cs' v (',' :: after))
    (h' : Reads readMembers after ms rest) :
    Reads readMembers ('"' :: cs) ((key, v) :: ms) rest := by
  obtain ⟨hlt, heq⟩ := hkey
  obtain ⟨hlt', heq'⟩ := h
  obtain ⟨hlt'', heq''⟩ := h'
  refine ⟨by simp at hlt hlt' ⊢; omega, ?_⟩
  rw [readMembers_cons heq heq' (by decide), if_pos rfl, heq'']
  rfl

end Reads

lemma reads_empty_array (rest : List Char) :
    Reads readValue ('[' :: ']' :: rest) (.array []) rest := by
  have hskip := skip_cons (c := ']') (by decide) rest
  refine ⟨by simp, ?_⟩
  rw [readValue_cons (by decide), if_neg (by decide), if_pos rfl]
  split <;> simp_all

lemma reads_empty_object (rest : List Char) :
    Reads readValue ('\x7b' :: '\x7d' :: rest) (.object []) rest := by
  have hskip := skip_cons (c := '\x7d') (by decide) rest
  refine ⟨by simp, ?_⟩
  rw [readValue_cons (by decide), if_neg (by decide), if_neg (by decide), if_pos rfl]
  split <;> simp_all

/-! ## First signs -/

lemma isSpace_of_startsNumber (h : startsNumber c = true) : isSpace c = false := by
  have hne : ∀ d, startsNumber d = false → (c == d) = false :=
    fun d hd => beq_false_of_ne (ne_of_startsNumber h hd)
  rw [isSpace, hne _ rfl, hne _ rfl, hne _ rfl, hne _ rfl]
  rfl

lemma Reads.value_number (hc : startsNumber c = true)
    (h : readNumber (c :: cs) = some (v, rest)) (hlt : rest.length < (c :: cs).length) :
    Reads readValue (c :: cs) v rest := by
  have hne : ∀ d, startsNumber d = false → c ≠ d := fun d => ne_of_startsNumber hc
  exact (reads_number hc h hlt).value_scalar (isSpace_of_startsNumber hc)
    ⟨hne _ rfl, hne _ rfl, hne _ rfl⟩

lemma Reads.value_word (c : Char) (tail : List Char) (hw : (c :: tail, v) ∈ words)
    (rest : List Char) : Reads readValue (c :: tail ++ rest) v rest := by
  have hc : isSpace c = false ∧ c ≠ '"' ∧ c ≠ '[' ∧ c ≠ '\x7b' := by
    revert hw
    simp only [words, List.mem_cons, Prod.mk.injEq, List.not_mem_nil, or_false]
    rintro (⟨h, -⟩ | ⟨h, -⟩ | ⟨h, -⟩) <;> rw [(List.cons.inj h).1] <;> decide
  exact (reads_word hw rest).value_scalar hc.1 hc.2

/-- What is written of a value begins with no blank and with no end of an array. -/
lemma exists_write_eq (v : Json) :
    ∃ c tail, write v = c :: tail ∧ isSpace c = false ∧ c ≠ ']' := by
  cases v with
  | null => exact ⟨'n', _, rfl, by decide⟩
  | bool b => cases b <;> exact ⟨_, _, rfl, by decide⟩
  | int n =>
    obtain ⟨c, tail, heq, hc⟩ := exists_writeInt_eq n
    exact ⟨c, tail, heq, isSpace_of_startsNumber hc, ne_of_startsNumber hc rfl⟩
  | real => exact ⟨'0', _, rfl, by decide⟩
  | text s =>
    obtain ⟨body, hbody, -⟩ := exists_writeText_eq s
    exact ⟨'"', body, hbody, by decide⟩
  | array vs => exact ⟨'[', _, rfl, by decide⟩
  | object ms => exact ⟨'\x7b', _, rfl, by decide⟩

lemma writeItems_cons_cons (v w : Json) (vs : List Json) :
    writeItems (v :: w :: vs) = write v ++ ',' :: writeItems (w :: vs) := rfl

lemma writeMembers_cons_cons (key : Option String) (v : Json) (m : Option String × Json)
    (ms : List (Option String × Json)) :
    writeMembers ((key, v) :: m :: ms) =
      writeText key ++ ':' :: (write v ++ ',' :: writeMembers (m :: ms)) := by
  rw [writeMembers, List.append_assoc]
  · rfl
  · simp

lemma skip_writeItems_ne (hne : vs ≠ []) (rest after : List Char) :
    skip (writeItems vs ++ rest) ≠ ']' :: after := by
  have hfirst : ∀ v tail, skip (write v ++ tail) ≠ ']' :: after := by
    intro v tail
    obtain ⟨c, tail', heq, hspace, hc⟩ := exists_write_eq v
    rw [heq, List.cons_append, skip_cons hspace]
    exact fun h => hc (List.cons.inj h).1
  match vs with
  | [] => exact absurd rfl hne
  | [v] => exact hfirst v rest
  | v :: w :: vs =>
    rw [writeItems_cons_cons, List.append_assoc]
    exact hfirst v _

lemma skip_writeMembers_ne (hne : ms ≠ []) (rest after : List Char) :
    skip (writeMembers ms ++ rest) ≠ '\x7d' :: after := by
  have hfirst : ∀ key tail, skip (writeText key ++ tail) ≠ '\x7d' :: after := by
    intro key tail
    obtain ⟨body, hbody, -⟩ := exists_writeText_eq key
    rw [hbody, List.cons_append, skip_cons (by decide)]
    exact fun h => absurd (List.cons.inj h).1 (by decide)
  match ms with
  | [] => exact absurd rfl hne
  | [(key, v)] =>
    rw [writeMembers, List.append_assoc]
    exact hfirst key _
  | (key, v) :: m :: ms =>
    rw [writeMembers_cons_cons, List.append_assoc]
    exact hfirst key _

/-! ## Reading back -/

mutual

/-- **What is written of a value is read back** in front of what ends values. -/
theorem reads_write : ∀ (v : Json) {rest : List Char}, EndsValue rest →
    Reads readValue (write v ++ rest) v rest
  | .null, rest, _ => Reads.value_word 'n' ['u', 'l', 'l'] (by simp [words]) rest
  | .bool true, rest, _ => Reads.value_word 't' ['r', 'u', 'e'] (by simp [words]) rest
  | .bool false, rest, _ => Reads.value_word 'f' ['a', 'l', 's', 'e'] (by simp [words]) rest
  | .int n, rest, h => by
    obtain ⟨c, tail, heq, hc⟩ := exists_writeInt_eq n
    have hread := readNumber_writeInt n h
    rw [heq] at hread
    rw [write, heq]
    exact Reads.value_number hc hread (by simp)
  | .real, rest, h => Reads.value_number (c := '0') rfl (readNumber_half h) (by simp; omega)
  | .text s, rest, _ => by
    obtain ⟨body, hbody, hreads⟩ := exists_writeText_eq s
    rw [write, hbody]
    exact (hreads rest).value_text
  | .array [], rest, _ => reads_empty_array rest
  | .array (v :: vs), rest, _ => by
    have hitems := reads_writeItems (v :: vs) (List.cons_ne_nil v vs) rest
    have hread := hitems.value_array (skip_writeItems_ne (List.cons_ne_nil v vs) _)
    rwa [write, List.cons_append, List.cons_append, List.append_assoc, List.singleton_append]
  | .object [], rest, _ => reads_empty_object rest
  | .object (m :: ms), rest, _ => by
    have hmembers := reads_writeMembers (m :: ms) (List.cons_ne_nil m ms) rest
    have hread := hmembers.value_object (skip_writeMembers_ne (List.cons_ne_nil m ms) _)
    rwa [write, List.cons_append, List.cons_append, List.append_assoc, List.singleton_append]

theorem reads_writeItems : ∀ vs : List Json, vs ≠ [] → ∀ rest,
    Reads readItems (writeItems vs ++ ']' :: rest) vs rest
  | [], hne, _ => absurd rfl hne
  | [v], _, rest => (reads_write v (.cons (by decide) rest)).items_last
  | v :: w :: vs, _, rest => by
    have hitems := reads_writeItems (w :: vs) (List.cons_ne_nil w vs) rest
    rw [writeItems_cons_cons, List.append_assoc]
    exact (reads_write v (.cons (by decide) _)).items_more hitems

theorem reads_writeMembers : ∀ ms : List (Option String × Json), ms ≠ [] → ∀ rest,
    Reads readMembers (writeMembers ms ++ '\x7d' :: rest) ms rest
  | [], hne, _ => absurd rfl hne
  | [(key, v)], _, rest => by
    obtain ⟨body, hbody, hkey⟩ := exists_writeText_eq key
    have hvalue := reads_write v (.cons (c := '\x7d') (by decide) rest)
    rw [writeMembers, hbody, List.append_assoc]
    exact (hkey _).members_last hvalue
  | (key, v) :: m :: ms, _, rest => by
    obtain ⟨body, hbody, hkey⟩ := exists_writeText_eq key
    have hmembers := reads_writeMembers (m :: ms) (List.cons_ne_nil m ms) rest
    have hvalue := reads_write v
      (.cons (c := ',') (by decide) (writeMembers (m :: ms) ++ '\x7d' :: rest))
    rw [writeMembers_cons_cons, hbody]
    simp only [List.cons_append, List.append_assoc]
    exact (hkey _).members_more hvalue hmembers

end

lemma Reads.read? {s : String} (h : Reads readValue s.toList v rest) (hrest : skip rest = []) :
    read? s = some v := by
  obtain ⟨hlt, heq⟩ := h
  rw [Json.read?, heq]
  exact if_pos (by rw [hrest, List.isEmpty_nil])

/-- **Every value is read back from its text.** -/
theorem read?_render (v : Json) : read? v.render = some v := by
  refine Reads.read? ?_ (show skip [] = [] from rfl)
  rw [render, String.toList_ofList]
  simpa using reads_write v .nil

example : (ofMembers [("a\n", array [int (-12), null, text none])]).render =
    "\x7b\"a\\n\":[-12,null,\"\\ud800\"]\x7d" := by decide

end QueueClient.Json
