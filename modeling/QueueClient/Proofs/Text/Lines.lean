/-
# Lines of a text

A text that is put together from parts with a sign between them is read back by cutting it at that
sign, as long as the parts do not hold it.  This is what is to be known about lines
(`lines_intercalate`), about lines with a name in front of their first colon (`keyed_inj`), and
about values between commas (`intercalate_comma_inj`).

Signs are not made out of nothing: what is trimmed, put together or put into lower case holds a sign
only if it was there before.
-/
import Mathlib.Tactic
import QueueClient.Text.Blank
import QueueClient.Text.Lowercase

namespace QueueClient.Text

variable {α : Type} {s t : String} {ls ms : List String}

/-! ## Cutting -/

/-- A list has only one first place where a property holds. -/
lemma first_place_unique {P : α → Prop} {x x' y y' : List α} {a a' : α} (hx : ∀ b ∈ x, ¬P b)
    (hx' : ∀ b ∈ x', ¬P b) (ha : P a) (ha' : P a') (heq : x ++ a :: y = x' ++ a' :: y') :
    x = x' ∧ a :: y = a' :: y' := by
  induction x generalizing x' with
  | nil =>
    cases x' with
    | nil => exact ⟨rfl, heq⟩
    | cons b x' =>
      have hab : a = b := (List.cons.inj heq).1
      exact absurd (hab ▸ ha) (hx' b List.mem_cons_self)
  | cons b x ih =>
    cases x' with
    | nil =>
      have hba : b = a' := (List.cons.inj heq).1
      exact absurd (hba ▸ ha') (hx b List.mem_cons_self)
    | cons b' x' =>
      obtain ⟨rfl, hrest⟩ := List.cons.inj heq
      obtain ⟨rfl, hy⟩ := ih (fun c hc => hx c (List.mem_cons_of_mem b hc))
        (fun c hc => hx' c (List.mem_cons_of_mem b hc)) hrest
      exact ⟨rfl, hy⟩

/-- Parts with a sign between them are cut where they are put together, and within. -/
lemma splitOn_intercalate_eq_flatMap [BEq α] [LawfulBEq α] (a : α) {parts : List (List α)}
    (hne : parts ≠ []) :
    ([a].intercalate parts).splitOn a = parts.flatMap fun part => part.splitOn a := by
  induction parts with
  | nil => exact absurd rfl hne
  | cons part parts ih =>
    cases parts with
    | nil => rw [List.intercalate_singleton, List.flatMap_singleton]
    | cons next parts =>
      have hcut : [a].intercalate (part :: next :: parts) =
          part ++ a :: [a].intercalate (next :: parts) := by
        rw [List.intercalate_cons_cons, List.append_assoc, List.singleton_append]
      have hsplit := List.splitOnP_append_cons (p := (· == a)) part
        ([a].intercalate (next :: parts)) (beq_self_eq_true a)
      rw [List.flatMap_cons, ← ih (List.cons_ne_nil _ _), hcut]
      exact hsplit

/-! ## Lines -/

/-- The lines of a text. -/
def lines (s : String) : List (List Char) := s.toList.splitOn '\n'

lemma lines_injective : Function.Injective lines := by
  intro s t h
  have hjoined := congrArg (fun parts => ['\n'].intercalate parts) h
  simp only [lines, List.intercalate_splitOn] at hjoined
  exact String.toList_inj.mp hjoined

lemma lines_eq_singleton (h : '\n' ∉ s.toList) : lines s = [s.toList] :=
  List.splitOn_eq_singleton h

/-- The first line starts as the text does. -/
lemma lines_of_toList_eq_cons {c : Char} {cs : List Char} (hc : c ≠ '\n') (h : s.toList = c :: cs) :
    ∃ l rest, lines s = (c :: l) :: rest := by
  have hsign : (c == '\n') = false := beq_false_of_ne hc
  rw [lines, h, List.splitOn_cons_eq_if_modifyHead, hsign, if_neg Bool.false_ne_true]
  cases hrest : cs.splitOn '\n' with
  | nil => exact absurd hrest (List.splitOn_ne_nil _ _)
  | cons l rest => exact ⟨l, rest, rfl⟩

/-- The lines of texts that are put together line by line are the lines of each. -/
lemma lines_intercalate (hne : ls ≠ []) : lines ("\n".intercalate ls) = ls.flatMap lines := by
  have hmap : ls.map String.toList ≠ [] := by simpa using hne
  have hsign : "\n".toList = ['\n'] := rfl
  rw [lines, String.toList_intercalate, hsign, splitOn_intercalate_eq_flatMap '\n' hmap,
    List.flatMap_map]
  rfl

/-- Texts without a newline are lines. -/
lemma flatMap_lines (h : ∀ s ∈ ls, '\n' ∉ s.toList) : ls.flatMap lines = ls.map String.toList := by
  rw [List.map_eq_flatMap]
  exact List.flatMap_congr fun s hs => lines_eq_singleton (h s hs)

/-- Lines with names in front of colons tell the names and what stands behind the colons. -/
lemma keyed_inj {f g : String → String} (hls : ∀ s ∈ ls, ':' ∉ s.toList)
    (hms : ∀ s ∈ ms, ':' ∉ s.toList)
    (h : ls.map (fun s => (s ++ ":" ++ f s).toList) =
      ms.map (fun s => (s ++ ":" ++ g s).toList)) : ls = ms ∧ ∀ s ∈ ls, f s = g s := by
  have hkeyed : ∀ (s : String) (f : String → String),
      (s ++ ":" ++ f s).toList = s.toList ++ ':' :: (f s).toList := by
    intro s f
    simp
  induction ls generalizing ms with
  | nil =>
    rw [List.map_nil, eq_comm, List.map_eq_nil_iff] at h
    exact ⟨h.symm, fun s hs => absurd hs List.not_mem_nil⟩
  | cons s ls ih =>
    cases ms with
    | nil => cases h
    | cons t ms =>
      rw [List.map_cons, List.map_cons, hkeyed, hkeyed] at h
      obtain ⟨hline, hrest⟩ := List.cons.inj h
      have hcolon : ∀ u : String, ':' ∉ u.toList → ∀ c ∈ u.toList, ¬c = ':' := by
        rintro u hu c hc rfl
        exact hu hc
      obtain ⟨hname, hvalue⟩ := first_place_unique (hcolon s (hls s List.mem_cons_self))
        (hcolon t (hms t List.mem_cons_self)) rfl rfl hline
      obtain rfl : s = t := String.toList_inj.mp hname
      obtain ⟨rfl, hvalues⟩ := ih (fun s hs => hls s (List.mem_cons_of_mem _ hs))
        (fun s hs => hms s (List.mem_cons_of_mem _ hs)) hrest
      refine ⟨rfl, fun u hu => ?_⟩
      rcases List.mem_cons.mp hu with rfl | hu
      · exact String.toList_inj.mp (List.cons.inj hvalue).2
      · exact hvalues u hu

/-- Values without commas are told by what they make with commas between them. -/
lemma intercalate_comma_inj (hne : ls ≠ []) (hne' : ms ≠ []) (hls : ∀ s ∈ ls, ',' ∉ s.toList)
    (hms : ∀ s ∈ ms, ',' ∉ s.toList) (h : ",".intercalate ls = ",".intercalate ms) : ls = ms := by
  have hread : ∀ {l : List String}, l ≠ [] → (∀ s ∈ l, ',' ∉ s.toList) →
      (",".intercalate l).toList.splitOn ',' = l.map String.toList := by
    intro l hl hcomma
    have hsign : ",".toList = [','] := rfl
    rw [String.toList_intercalate, hsign]
    refine List.splitOn_intercalate ',' ?_ (by simpa using hl)
    simpa using hcomma
  have hmap : ls.map String.toList = ms.map String.toList := by
    rw [← hread hne hls, ← hread hne' hms, h]
  exact List.map_injective_iff.mpr (fun s t hst => String.toList_inj.mp hst) hmap

/-! ## Signs -/

lemma mem_intercalate {sep : String} {c : Char} (h : c ∈ (sep.intercalate ls).toList) :
    c ∈ sep.toList ∨ ∃ s ∈ ls, c ∈ s.toList := by
  rw [String.toList_intercalate] at h
  induction ls with
  | nil => cases h
  | cons s ls ih =>
    cases ls with
    | nil =>
      rw [List.map_singleton, List.intercalate_singleton] at h
      exact Or.inr ⟨s, List.mem_cons_self, h⟩
    | cons t ls =>
      rw [List.map_cons, List.map_cons, List.intercalate_cons_cons, List.mem_append,
        List.mem_append] at h
      rcases h with (h | h) | h
      · exact Or.inr ⟨s, List.mem_cons_self, h⟩
      · exact Or.inl h
      · rcases ih h with hsep | ⟨u, hu, hc⟩
        · exact Or.inl hsep
        · exact Or.inr ⟨u, List.mem_cons_of_mem _ hu, hc⟩

lemma mem_of_mem_stripWhile {p : α → Bool} {l : List α} {a : α} (h : a ∈ stripWhile p l) :
    a ∈ l := by
  rw [stripWhile, List.mem_reverse] at h
  have hfront := (List.dropWhile_sublist p).subset h
  rw [List.mem_reverse] at hfront
  exact (List.dropWhile_sublist p).subset hfront

lemma mem_of_mem_trim {c : Char} (h : c ∈ (trim s).toList) : c ∈ s.toList := by
  rw [trim, String.toList_ofList] at h
  exact mem_of_mem_stripWhile h

/-- No capital beyond ASCII has a small letter that is a sign below the letters. -/
lemma lowerRuns_bound : ∀ run ∈ lowerRuns, (64 : ℤ) ≤ run.1 + run.2.2.2 := by decide +kernel

/-- A sign below the letters is not the small form of another character. -/
lemma eq_of_mem_lowerChar {c d : Char} (hd : 0 < d.toNat ∧ d.toNat < 64)
    (h : d ∈ lowerChar c) : d = c := by
  rw [lowerChar] at h
  split at h
  · rename_i hc
    have hascii : ∀ n < 128, (Char.ofNat n).toLower.toNat < 64 →
        (Char.ofNat n).toLower = Char.ofNat n := by decide
    rw [List.mem_singleton] at h
    have hself := hascii c.toNat hc
    rw [Char.ofNat_toNat, ← h] at hself
    exact hself hd.2
  · split at h
    · simp only [List.mem_cons, List.not_mem_nil, or_false] at h
      rcases h with rfl | rfl
      · exact absurd hd.2 (by decide)
      · exact absurd hd.2 (by decide)
    · split at h
      · rename_i run hrun
        rw [List.mem_singleton] at h
        have hbound := lowerRuns_bound run (List.mem_of_find?_eq_some hrun)
        have hfirst : run.1 ≤ c.toNat := by
          have hfound := List.find?_some hrun
          simp only [Bool.and_eq_true, decide_eq_true_eq] at hfound
          exact hfound.1.1
        -- what is no character becomes the character zero
        have hvalue : d.toNat = ((c.toNat : ℤ) + run.2.2.2).toNat ∨ d.toNat = 0 := by
          rw [h, Char.ofNat]
          by_cases hvalid : ((c.toNat : ℤ) + run.2.2.2).toNat.isValidChar
          · rw [dif_pos hvalid]
            exact Or.inl rfl
          · rw [dif_neg hvalid]
            exact Or.inr rfl
        omega
      · exact List.mem_singleton.mp h

/-- A sign below the letters is in a text in lower case only if it was there before. -/
lemma mem_of_mem_toLowercase {d : Char} (hd : 0 < d.toNat ∧ d.toNat < 64)
    (h : d ∈ (toLowercase s).toList) : d ∈ s.toList := by
  have hwalk : ∀ (l before : List Char), d ∈ lowerAfter before l → d ∈ l := by
    intro l
    induction l with
    | nil => exact fun before h => h
    | cons c l ih =>
      intro before h
      rw [lowerAfter, List.mem_append] at h
      rcases h with h | h
      · split at h
        · rw [List.mem_singleton] at h
          exfalso
          revert hd
          rw [h]
          split <;> decide
        · rw [eq_of_mem_lowerChar hd h]
          exact List.mem_cons_self
      · exact List.mem_cons_of_mem _ (ih _ h)
  rw [toLowercase, String.toList_ofList] at h
  exact hwalk _ _ h

end QueueClient.Text
