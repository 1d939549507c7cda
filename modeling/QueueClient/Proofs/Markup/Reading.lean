/-
# Trees read back

The reader finds in a written tree the events that the tree has (`Document.events_written`).  Each
kind of markup is cut where it ends, because what stands in it keeps it open (`StaysOpen`): the
text of a comment holds no two dashes, an attribute keeps its signs in quotes.  The text between
markup goes up to the next `<` (`eventsIn_text`).  Instructions are cut at their first `>`, so they
have to be plain.
-/
import Mathlib.Data.List.DropRight
import Mathlib.Tactic
import QueueClient.Proofs.Markup.Tree

namespace QueueClient.Markup

variable {cs ds rest text : List Char} {opened : List (List Char)}

/-! ## Where markup ends -/

section Cut

variable {σ : Type} {step : σ → Char → σ} {closes : σ → Bool} {s : σ}

/-- When the text is read from a state on, no `>` in it is an end. -/
def StaysOpen (step : σ → Char → σ) (closes : σ → Bool) : σ → List Char → Prop
  | _, [] => True
  | s, c :: cs => (c = '>' → closes s = false) ∧ StaysOpen step closes (step s c) cs

lemma staysOpen_append :
    StaysOpen step closes s (cs ++ ds) ↔
      StaysOpen step closes s cs ∧ StaysOpen step closes (cs.foldl step s) ds := by
  induction cs generalizing s with
  | nil => simp [StaysOpen]
  | cons c cs ih => simp only [List.cons_append, StaysOpen, ih, List.foldl_cons, and_assoc]

lemma staysOpen_of_notMem (h : '>' ∉ cs) : StaysOpen step closes s cs := by
  induction cs generalizing s with
  | nil => trivial
  | cons c cs ih =>
    rw [List.mem_cons, not_or] at h
    exact ⟨fun hc => absurd hc.symm h.1, ih h.2⟩

/-- The text stays open if no front part of it that ends before a `>` allows to close. -/
lemma staysOpen_of_fronts
    (h : ∀ front back, cs = front ++ '>' :: back → closes (front.foldl step s) = false) :
    StaysOpen step closes s cs := by
  induction cs generalizing s with
  | nil => trivial
  | cons c cs ih =>
    refine ⟨fun hc => h [] cs (by rw [hc, List.nil_append]), ih fun front back hcs => ?_⟩
    exact h (c :: front) back (by rw [hcs, List.cons_append])

lemma cut_of_staysOpen (h : StaysOpen step closes s cs) (hend : closes (cs.foldl step s) = true) :
    cut step closes s (cs ++ '>' :: rest) = some (cs, rest) := by
  induction cs generalizing s with
  | nil =>
    rw [List.nil_append, cut, if_pos ⟨rfl, hend⟩]
  | cons c cs ih =>
    have hopen : ¬ (c = '>' ∧ closes s = true) := fun hc => by
      rw [h.1 hc.1] at hc
      exact absurd hc.2 (by decide)
    rw [List.cons_append, cut, if_neg hopen, ih h.2 hend]

lemma foldl_backwards (read : List Char) :
    cs.foldl (fun (read : List Char) c => c :: read) read = cs.reverse ++ read := by
  induction cs generalizing read with
  | nil => rfl
  | cons c cs ih => simp [ih]

end Cut

lemma cutPlain_append (h : '>' ∉ cs) (rest : List Char) :
    cutPlain (cs ++ '>' :: rest) = some (cs, rest) :=
  cut_of_staysOpen (staysOpen_of_notMem h) rfl

/-- What the last two signs of a text are is seen from its back. -/
lemma eq_append_of_take_reverse {a b : Char} (h : cs.reverse.take 2 = [b, a]) :
    ∃ front, cs = front ++ [a, b] := by
  refine ⟨(cs.reverse.drop 2).reverse, ?_⟩
  have hback : cs.reverse = [b, a] ++ cs.reverse.drop 2 := by
    rw [← h, List.take_append_drop]
  simpa using congrArg List.reverse hback

/-- A comment ends behind its two dashes: a `>` in its text has no two dashes before it, and the
dashes at the start of the comment do not count. -/
lemma cutComment_append (h : ¬ ['-', '-'] <:+: text) (rest : List Char) :
    cutComment (['-', '-'] ++ text ++ ['-', '-'] ++ '>' :: rest) =
      some (['-', '-'] ++ text ++ ['-', '-'], rest) := by
  refine cut_of_staysOpen (staysOpen_append.2 ⟨staysOpen_append.2
    ⟨staysOpen_of_notMem (by decide), staysOpen_of_fronts fun front back htext => ?_⟩,
    staysOpen_of_notMem (by decide)⟩) ?_
  · rw [foldl_backwards, foldl_backwards, Bool.eq_false_iff]
    intro hclose
    simp only [Bool.and_eq_true, decide_eq_true_eq, beq_iff_eq] at hclose
    obtain ⟨hlong, hdashes⟩ := hclose
    have htwo : 2 ≤ front.reverse.length := by
      simp only [List.length_append, List.length_reverse, List.length_cons, List.length_nil]
        at hlong ⊢
      omega
    rw [List.take_append_of_le_length htwo] at hdashes
    obtain ⟨before, rfl⟩ := eq_append_of_take_reverse hdashes
    exact h ⟨before, '>' :: back, by rw [htext]⟩
  · rw [foldl_backwards]
    simp

/-- A section ends behind its two brackets: a `>` in its text has no two brackets before it, not
even with the one at the start of the section. -/
lemma cutSection_append (h : ¬ [']', ']', '>'] <:+: text) (rest : List Char) :
    cutSection (['[', 'C', 'D', 'A', 'T', 'A', '['] ++ text ++ [']', ']'] ++ '>' :: rest) =
      some (['[', 'C', 'D', 'A', 'T', 'A', '['] ++ text ++ [']', ']'], rest) := by
  refine cut_of_staysOpen (staysOpen_append.2 ⟨staysOpen_append.2
    ⟨staysOpen_of_notMem (by decide), staysOpen_of_fronts fun front back htext => ?_⟩,
    staysOpen_of_notMem (by decide)⟩) ?_
  · rw [foldl_backwards, foldl_backwards, beq_eq_false_iff_ne]
    intro hbrackets
    match hfront : front.reverse with
    | [] => simp [hfront] at hbrackets
    | [c] => simp [hfront] at hbrackets
    | b :: a :: before =>
      simp only [hfront, List.cons_append, List.take_succ_cons, List.take_zero, List.cons.injEq]
        at hbrackets
      obtain ⟨rfl, rfl, -⟩ := hbrackets
      obtain ⟨before, rfl⟩ := eq_append_of_take_reverse <|
        show front.reverse.take 2 = [']', ']'] by rw [hfront]; rfl
      exact h ⟨before, back, by rw [htext]; simp⟩
  · rw [foldl_backwards]
    simp

/-! ## Tags -/

/-- The quote that is open after one more sign of a tag. -/
def quoteAfter (q : Option Char) (c : Char) : Option Char :=
  match q with
  | none => if c == '"' || c == '\'' then some c else none
  | some d => if c == d then none else some d

lemma cutTag_eq (cs : List Char) : cutTag cs = cut quoteAfter Option.isNone none cs := rfl

/-- A part of a tag that is outside of quotes at its end, as it is at its start, and has no `>`
between. -/
structure IsInTag (cs : List Char) : Prop where
  staysOpen : StaysOpen quoteAfter Option.isNone none cs
  foldl_eq : cs.foldl quoteAfter none = none

namespace IsInTag

lemma append (h : IsInTag cs) (h' : IsInTag ds) : IsInTag (cs ++ ds) where
  staysOpen := staysOpen_append.2 ⟨h.staysOpen, by rw [h.foldl_eq]; exact h'.staysOpen⟩
  foldl_eq := by rw [List.foldl_append, h.foldl_eq, h'.foldl_eq]

lemma flatMap {α : Type} {l : List α} {f : α → List Char} (h : ∀ x ∈ l, IsInTag (f x)) :
    IsInTag (l.flatMap f) := by
  induction l with
  | nil => exact ⟨trivial, rfl⟩
  | cons x l ih =>
    rw [List.flatMap_cons]
    exact (h x List.mem_cons_self).append (ih fun y hy => h y (List.mem_cons_of_mem x hy))

lemma of_plain (h : ∀ c ∈ cs, c ≠ '>' ∧ c ≠ '"' ∧ c ≠ '\'') : IsInTag cs where
  staysOpen := staysOpen_of_notMem fun hc => (h _ hc).1 rfl
  foldl_eq := by
    induction cs with
    | nil => rfl
    | cons c cs ih =>
      have hc : quoteAfter none c = none := by
        simp [quoteAfter, (h c List.mem_cons_self).2]
      rw [List.foldl_cons, hc, ih fun d hd => h d (List.mem_cons_of_mem c hd)]

/-- Between quotes nothing but the same quote counts. -/
lemma quoted {q : Char} {value : List Char} (hq : q = '"' ∨ q = '\'') (h : q ∉ value) :
    IsInTag (q :: value ++ [q]) := by
  have hopens : quoteAfter none q = some q := by
    rcases hq with rfl | rfl <;> rfl
  have hcloses : quoteAfter (some q) q = none := by simp [quoteAfter]
  have hne : q ≠ '>' := by
    rcases hq with rfl | rfl <;> decide
  have hvalue : StaysOpen quoteAfter Option.isNone (some q) value ∧
      value.foldl quoteAfter (some q) = some q := by
    induction value with
    | nil => exact ⟨trivial, rfl⟩
    | cons c value ih =>
      rw [List.mem_cons, not_or] at h
      have hstep : quoteAfter (some q) c = some q := by simp [quoteAfter, Ne.symm h.1]
      rw [List.foldl_cons, StaysOpen, hstep]
      exact ⟨⟨fun _ => rfl, (ih h.2).1⟩, (ih h.2).2⟩
  constructor
  · refine ⟨fun hc => absurd hc hne, ?_⟩
    rw [hopens]
    exact staysOpen_append.2 ⟨hvalue.1, fun hc => absurd hc hne, trivial⟩
  · rw [List.cons_append, List.foldl_cons, hopens, List.foldl_append, hvalue.2]
    exact hcloses

end IsInTag

lemma of_isNameSign {c : Char} (h : isNameSign c = true) :
    isSpace c = false ∧ c ≠ '>' ∧ c ≠ '"' ∧ c ≠ '\'' ∧ c ≠ '/' ∧ c ≠ '!' ∧ c ≠ '?' := by
  simp only [isNameSign, Bool.and_eq_true, Bool.not_eq_true', List.contains_eq_mem,
    decide_eq_false_iff_not] at h
  refine ⟨h.1, ?_, ?_, ?_, ?_, ?_, ?_⟩ <;>
  · rintro rfl
    exact h.2 (by decide)

lemma of_isSpace {c : Char} (h : isSpace c = true) :
    c ≠ '>' ∧ c ≠ '"' ∧ c ≠ '\'' ∧ c ≠ '/' := by
  simp only [isSpace, Bool.or_eq_true, beq_iff_eq] at h
  rcases h with ((rfl | rfl) | rfl) | rfl <;> decide

namespace QualifiedName

/-- Each sign of a name can stand in names or is a colon. -/
lemma sign_of_mem_written {n : QualifiedName} {c : Char} (h : c ∈ n.written) :
    isNameSign c = true ∨ c = ':' := by
  rcases n with ⟨_ | q, base⟩
  · exact .inl (Name.isNameSign_of_mem h)
  · rcases List.mem_append.1 h with hc | hc
    · exact .inl (Name.isNameSign_of_mem hc)
    · rcases List.mem_cons.1 hc with rfl | hc
      · exact .inr rfl
      · exact .inl (Name.isNameSign_of_mem hc)

/-- What no sign of a name is. -/
lemma of_mem_written {n : QualifiedName} {c : Char} (h : c ∈ n.written) :
    isSpace c = false ∧ c ≠ '>' ∧ c ≠ '"' ∧ c ≠ '\'' ∧ c ≠ '/' := by
  rcases sign_of_mem_written h with hc | rfl
  · have := of_isNameSign hc
    exact ⟨this.1, this.2.1, this.2.2.1, this.2.2.2.1, this.2.2.2.2.1⟩
  · decide

/-- A name starts with a sign that can stand in names. -/
lemma exists_written_eq (n : QualifiedName) :
    ∃ c cs, n.written = c :: cs ∧ isNameSign c = true := by
  have hname : ∀ m : Name, ∃ c cs, m.signs = c :: cs ∧ isNameSign c = true := fun m => by
    obtain ⟨c, cs, hm⟩ := List.exists_cons_of_ne_nil m.ne_nil
    exact ⟨c, cs, hm, Name.isNameSign_of_mem (hm ▸ List.mem_cons_self)⟩
  rcases n with ⟨_ | q, base⟩
  · exact hname base
  · obtain ⟨c, cs, hq, hc⟩ := hname q
    exact ⟨c, cs ++ ':' :: base.signs, by simp [written, hq], hc⟩

/-- The local name is what stands behind the short form of the namespace. -/
lemma localName_written (n : QualifiedName) : localName n.written = n.base.signs := by
  have hcolon : ∀ m : Name, ∀ c ∈ m.signs, decide (c ≠ ':') = true := fun m c hc => by
    rw [decide_eq_true_eq]
    rintro rfl
    exact absurd (Name.isNameSign_of_mem hc) (by decide)
  rcases n with ⟨_ | q, base⟩
  · simp only [written, localName, List.dropWhile_eq_nil_iff.2 (hcolon base)]
  · simp only [written, localName, List.dropWhile_append_of_pos (hcolon q)]
    simp

end QualifiedName

lemma Blank.isInTag (b : Blank) : IsInTag b.signs :=
  .of_plain fun c hc => by
    obtain ⟨hend, hdouble, hsingle, -⟩ := of_isSpace (isSpace_of_mem hc)
    exact ⟨hend, hdouble, hsingle⟩

lemma QualifiedName.isInTag_written (n : QualifiedName) : IsInTag n.written :=
  .of_plain fun c hc => by
    obtain ⟨-, hend, hdouble, hsingle, -⟩ := of_mem_written hc
    exact ⟨hend, hdouble, hsingle⟩

lemma Attribute.isInTag_written (a : Attribute) : IsInTag a.written := by
  have hsign : IsInTag ['='] := .of_plain (by simp)
  have h := (((a.gap.isInTag.append a.name.isInTag_written).append a.before.isInTag).append
    (hsign.append a.after.isInTag)).append (.quoted a.isQuote a.unquoted)
  simpa [Attribute.written] using h

lemma Tag.isInTag_inside (t : Tag) : IsInTag t.inside :=
  (t.name.isInTag_written.append (.flatMap fun a _ => a.isInTag_written)).append t.gap.isInTag

/-- The name of a tag goes up to the first blank in it. -/
lemma Tag.takeWhile_inside (t : Tag) : t.inside.takeWhile (! isSpace ·) = t.name.written := by
  have hname : ∀ c ∈ t.name.written, (! isSpace c) = true := fun c hc => by
    rw [(QualifiedName.of_mem_written hc).1, Bool.not_false]
  have hrest : (t.attributes.flatMap Attribute.written ++ t.gap.signs).takeWhile (! isSpace ·)
      = [] := by
    have hblank : ∀ (b : Blank) (ds : List Char), b.signs ≠ [] →
        (b.signs ++ ds).takeWhile (! isSpace ·) = [] := fun b ds hb => by
      obtain ⟨c, cs, hcs⟩ := List.exists_cons_of_ne_nil hb
      have hc : isSpace c = true := Blank.isSpace_of_mem (hcs ▸ List.mem_cons_self)
      simp [hcs, hc]
    match hattributes : t.attributes with
    | [] =>
      by_cases hgap : t.gap.signs = []
      · simp [hgap]
      · simpa using hblank t.gap [] hgap
    | a :: others =>
      simp only [List.flatMap_cons, Attribute.written, List.append_assoc]
      exact hblank a.gap _ a.gap_ne_nil
  rw [inside, List.append_assoc, List.takeWhile_append_of_pos hname, hrest, List.append_nil]

/-- A start tag does not look like one that is closed at once. -/
lemma Tag.getLast?_inside_ne (t : Tag) : t.inside.getLast? ≠ some '/' := by
  have happend : ∀ {cs ds : List Char}, cs.getLast? ≠ some '/' → ds.getLast? ≠ some '/' →
      (cs ++ ds).getLast? ≠ some '/' := fun hcs hds h => by
    rw [List.getLast?_append, Option.or_eq_some_iff] at h
    exact h.elim hds fun h => hcs h.2
  have hname : t.name.written.getLast? ≠ some '/' := fun h =>
    (QualifiedName.of_mem_written (List.mem_of_getLast? h)).2.2.2.2 rfl
  have hgap : t.gap.signs.getLast? ≠ some '/' := fun h =>
    (of_isSpace (Blank.isSpace_of_mem (List.mem_of_getLast? h))).2.2.2 rfl
  have hattribute : ∀ a : Attribute, a.written.getLast? ≠ some '/' := fun a => by
    rw [Attribute.written, List.getLast?_concat]
    rcases a.isQuote with hq | hq <;> simp [hq]
  have hattributes : ∀ l : List Attribute,
      (l.flatMap Attribute.written).getLast? ≠ some '/' := fun l => by
    induction l with
    | nil => simp
    | cons a l ih => exact happend (hattribute a) ih
  exact happend (happend hname (hattributes _)) hgap

/-! ## One piece of markup -/

/-- Behind `<`, a sign of a name starts a tag. -/
lemma construct_of_isNameSign {c : Char} (h : isNameSign c = true) :
    construct opened (c :: cs) = close (cutTag (c :: cs)) (readStartTag opened) := by
  obtain ⟨-, -, -, -, hslash, hmark, hquestion⟩ := of_isNameSign h
  unfold construct
  split <;> simp_all

/-- A tag is cut at its end, whatever stands there besides `>`. -/
lemma construct_inside (opened : List (List Char)) (t : Tag) (hds : IsInTag ds)
    (rest : List Char) :
    construct opened (t.inside ++ ds ++ '>' :: rest) =
      close (some (t.inside ++ ds, rest)) (readStartTag opened) := by
  obtain ⟨c, cs, hname, hc⟩ := t.name.exists_written_eq
  have htag := t.isInTag_inside.append hds
  have hcut : cutTag (t.inside ++ ds ++ '>' :: rest) = some (t.inside ++ ds, rest) := by
    rw [cutTag_eq]
    exact cut_of_staysOpen htag.staysOpen (by rw [htag.foldl_eq]; rfl)
  rw [← hcut]
  simp only [Tag.inside, hname, List.cons_append]
  exact construct_of_isNameSign hc

/-- A start tag opens its element. -/
lemma construct_opening (t : Tag) :
    construct opened (t.inside ++ '>' :: rest) =
      some (.start t.name.written, t.name.written :: opened, rest) := by
  have hcut := construct_inside opened t (.of_plain (by simp) : IsInTag []) rest
  rw [List.append_nil] at hcut
  simp only [hcut, close, readStartTag, if_neg t.getLast?_inside_ne, t.takeWhile_inside]

/-- Blanks behind a text that ends with none are cut off. -/
lemma trimEnd_append (h : ∀ c ∈ cs, isSpace c = false) (b : Blank) :
    trimEnd (cs ++ b.signs) = cs := by
  have hblank : ∀ c ∈ b.signs.reverse, isSpace c = true := fun c hc =>
    Blank.isSpace_of_mem (List.mem_reverse.1 hc)
  have hself : cs.rdropWhile isSpace = cs := List.rdropWhile_eq_self_iff.2 fun hcs => by
    simp [h _ (List.getLast_mem hcs)]
  rw [trimEnd, List.reverse_append, List.dropWhile_append_of_pos hblank]
  exact hself

/-- An end tag closes the element opened last, if it has its name. -/
lemma construct_closing (t : Tag) :
    construct (t.name.written :: opened) ('/' :: t.name.written ++ t.endGap.signs ++ '>' :: rest)
      = some (.finish t.name.written, opened, rest) := by
  have hname : '>' ∉ t.name.written ++ t.endGap.signs := by
    rw [List.mem_append, not_or]
    exact ⟨fun h => (QualifiedName.of_mem_written h).2.1 rfl,
      fun h => (of_isSpace (Blank.isSpace_of_mem h)).1 rfl⟩
  have htrim : trimEnd (t.name.written ++ t.endGap.signs) = t.name.written :=
    trimEnd_append (fun c hc => (QualifiedName.of_mem_written hc).1) _
  have hne : t.name.written.isEmpty = false := by
    obtain ⟨c, cs, h, -⟩ := t.name.exists_written_eq
    rw [h, List.isEmpty_cons]
  change close (cutPlain (t.name.written ++ t.endGap.signs ++ '>' :: rest)) _ = _
  rw [cutPlain_append hname]
  simp only [close, readEndTag, htrim, hne, Bool.false_eq_true, if_false, if_true]

/-- A tag that ends with a slash opens nothing. -/
lemma construct_void (t : Tag) :
    construct opened (t.inside ++ ['/', '>'] ++ rest) = some (.other, opened, rest) := by
  have hcut := construct_inside opened t (.of_plain (by simp) : IsInTag ['/']) rest
  simp only [List.append_assoc, List.cons_append, List.nil_append] at hcut ⊢
  rw [hcut]
  simp [close, readStartTag]

lemma construct_comment (h : ¬ ['-', '-'] <:+: text) :
    construct opened (['!', '-', '-'] ++ text ++ ['-', '-', '>'] ++ rest) =
      some (.other, opened, rest) := by
  have hcut := cutComment_append h rest
  simp only [List.append_assoc, List.cons_append, List.nil_append] at hcut ⊢
  change close (cutComment _) _ = _
  rw [hcut]
  rfl

lemma construct_literal (h : ¬ [']', ']', '>'] <:+: text) :
    construct opened
        (['!', '[', 'C', 'D', 'A', 'T', 'A', '['] ++ text ++ [']', ']', '>'] ++ rest) =
      some (.literal text, opened, rest) := by
  have hcut := cutSection_append h rest
  have hread : readSection opened (['[', 'C', 'D', 'A', 'T', 'A', '['] ++ text ++ [']', ']']) =
      some (.literal text, opened) := by
    have hcontent : (['[', 'C', 'D', 'A', 'T', 'A', '['] ++ text ++ [']', ']']).take
        ((['[', 'C', 'D', 'A', 'T', 'A', '['] ++ text ++ [']', ']']).length - 2) =
          ['[', 'C', 'D', 'A', 'T', 'A', '['] ++ text := by
      rw [List.length_append]
      exact List.take_left
    rw [readSection, hcontent]
    rfl
  simp only [List.append_assoc, List.cons_append, List.nil_append] at hcut hread ⊢
  change close (cutSection _) _ = _
  rw [hcut, close, hread]

/-- An instruction ends at its first `>`. -/
lemma construct_instruction (hne : text ≠ []) (h : '>' ∉ text) :
    construct opened (['?'] ++ text ++ ['?', '>'] ++ rest) = some (.other, opened, rest) := by
  have hplain : '>' ∉ text ++ ['?'] := by simp [h]
  have hcut := cutPlain_append hplain rest
  simp only [List.append_assoc, List.cons_append, List.nil_append] at hcut ⊢
  change close (cutPlain _) _ = _
  rw [hcut]
  simp [close, readInstruction, List.length_pos_iff.2 hne]

/-- An item leaves the open elements as they are. -/
lemma construct_item (opened : List (List Char)) (i : Item) (h : i.IsPlain) (rest : List Char) :
    ∃ cs, i.written = '<' :: cs ∧
      construct opened (cs ++ rest) = some (i.event, opened, rest) := by
  cases i with
  | void t => exact ⟨_, rfl, construct_void t⟩
  | comment text unclosed => exact ⟨_, rfl, construct_comment unclosed⟩
  | literal text unclosed => exact ⟨_, rfl, construct_literal unclosed⟩
  | instruction text ne_nil unclosed => exact ⟨_, rfl, construct_instruction ne_nil h⟩

/-! ## Contents -/

/-- No text goes on here: all is read, or markup follows. -/
def EndsText (rest : List Char) : Prop := ∀ c, rest.head? = some c → c = '<'

lemma endsText_cons : EndsText ('<' :: rest) := fun _ h => (Option.some.inj h).symm

/-- The reader by the first sign that is no blank. -/
lemma eventsIn_eq (opened : List (List Char)) (cs : List Char) :
    eventsIn opened cs =
      match cs.dropWhile isSpace with
      | [] => []
      | c :: ds =>
        if c = '<' then
          match construct opened ds with
          | some (e, opened', rest) => e :: eventsIn opened' rest
          | none => []
        else
          .text (c :: trimEnd (ds.takeWhile (· ≠ '<'))) ::
            eventsIn opened (ds.dropWhile (· ≠ '<')) := by
  rw [eventsIn]
  split
  · next hnil => rw [hnil]
  · next c ds hcons =>
    rw [hcons]
    dsimp only
    split
    · split <;> next hc => rw [hc]
    · rfl

lemma eventsIn_nil : eventsIn opened [] = [] := by
  rw [eventsIn_eq, List.dropWhile_nil]

/-- Markup is one event, and the reader goes on behind it. -/
lemma eventsIn_construct {e : Event} {opened' : List (List Char)}
    (h : construct opened cs = some (e, opened', rest)) :
    eventsIn opened ('<' :: cs) = e :: eventsIn opened' rest := by
  rw [eventsIn_eq, List.dropWhile_cons_of_neg (by decide)]
  simp only [if_true, h]

lemma trimEnd_cons {c : Char} (h : isSpace c = false) : trimEnd (c :: cs) = c :: trimEnd cs := by
  rw [trimEnd, trimEnd, List.reverse_cons, List.dropWhile_append]
  split
  · next hnil =>
    rw [List.isEmpty_iff.1 hnil, List.dropWhile_cons_of_neg (by simp [h])]
    rfl
  · rw [List.reverse_append]
    rfl

/-- The text up to the next markup is one event, or none if it is blank. -/
lemma eventsIn_text (t : Plain) (hrest : EndsText rest) :
    eventsIn opened (t.signs ++ rest) = textEvents t.signs ++ eventsIn opened rest := by
  rw [eventsIn_eq, List.dropWhile_append]
  match hdrop : t.signs.dropWhile isSpace with
  | [] =>
    simp only [List.isEmpty_nil, if_true, textEvents, trim, hdrop]
    exact (eventsIn_eq _ _).symm
  | c :: ds =>
    have hmem : ∀ d ∈ c :: ds, d ≠ '<' := fun d hd => by
      rintro rfl
      exact t.unmarked ((List.dropWhile_sublist _).mem (hdrop ▸ hd))
    have hblank : isSpace c = false := by
      simpa [hdrop] using List.head_dropWhile_not isSpace (l := t.signs) (by simp [hdrop])
    have hall : ∀ d ∈ ds, decide (d ≠ '<') = true := fun d hd =>
      decide_eq_true (hmem d (List.mem_cons_of_mem c hd))
    have hstop : rest.takeWhile (fun d => decide (d ≠ '<')) = [] ∧
        rest.dropWhile (fun d => decide (d ≠ '<')) = rest := by
      cases rest with
      | nil => exact ⟨rfl, rfl⟩
      | cons d rest => simp [hrest d rfl]
    have htext : textEvents t.signs = [.text (c :: trimEnd ds)] := by
      rw [textEvents, trim, hdrop, trimEnd_cons hblank, if_neg (by simp)]
    simp only [List.isEmpty_cons, Bool.false_eq_true, if_false, List.cons_append,
      if_neg (hmem c List.mem_cons_self), htext, List.takeWhile_append_of_pos hall,
      List.dropWhile_append_of_pos hall, hstop, List.append_nil, List.nil_append]

/-- An item is its event. -/
lemma eventsIn_item (i : Item) (h : i.IsPlain) :
    eventsIn opened (i.written ++ rest) = i.event :: eventsIn opened rest := by
  obtain ⟨cs, hwritten, hitem⟩ := construct_item opened i h rest
  rw [hwritten]
  exact eventsIn_construct hitem

lemma endsText_item (i : Item) : EndsText (i.written ++ rest) := by
  cases i <;> exact endsText_cons

/-- **A content is read as the events that it has**, in whatever elements it stands and whatever
comes behind it. -/
theorem eventsIn_written (c : Content) (h : c.HasPlainInstructions) (hrest : EndsText rest) :
    eventsIn opened (c.written ++ rest) = c.events ++ eventsIn opened rest := by
  induction c generalizing opened rest with
  | text t => exact eventsIn_text t hrest
  | element t tag inner more ih_inner ih_more =>
    calc eventsIn opened ((Content.element t tag inner more).written ++ rest)
        = eventsIn opened (t.signs ++ '<' :: (tag.inside ++ '>' :: (inner.written ++
            '<' :: ('/' :: tag.name.written ++ tag.endGap.signs ++ '>' ::
              (more.written ++ rest))))) := by
          simp [Content.written, Tag.opening, Tag.closing]
      _ = textEvents t.signs ++ .start tag.name.written ::
            eventsIn (tag.name.written :: opened) (inner.written ++
              '<' :: ('/' :: tag.name.written ++ tag.endGap.signs ++ '>' ::
                (more.written ++ rest))) := by
          rw [eventsIn_text t endsText_cons, eventsIn_construct (construct_opening tag)]
      _ = textEvents t.signs ++ .start tag.name.written :: (inner.events ++
            .finish tag.name.written :: eventsIn opened (more.written ++ rest)) := by
          rw [ih_inner h.1 endsText_cons, eventsIn_construct (construct_closing tag)]
      _ = (Content.element t tag inner more).events ++ eventsIn opened rest := by
          rw [ih_more h.2 hrest]
          simp [Content.events]
  | item t i more ih =>
    rw [Content.written, List.append_assoc, List.append_assoc, eventsIn_text t (endsText_item i),
      eventsIn_item i h.1, ih h.2 hrest]
    simp [Content.events]

/-! ## Documents -/

/-- What stands around the outermost element starts with markup or a blank. -/
lemma Content.IsMisc.head?_ne {c : Content} (h : c.IsMisc) (hrest : EndsText rest) :
    (c.written ++ rest).head? ≠ some '\ufeff' := by
  have hblank : ∀ {t : Plain} {ds : List Char}, (∀ d ∈ t.signs, isSpace d = true) →
      EndsText ds → (t.signs ++ ds).head? ≠ some '\ufeff' := fun {t ds} ht hds hhead => by
    rw [List.head?_append, Option.or_eq_some_iff] at hhead
    rcases hhead with hhead | ⟨-, hhead⟩
    · exact absurd (ht _ (List.mem_of_head? hhead)) (by decide)
    · exact absurd (hds _ hhead) (by decide)
  cases c with
  | text t => exact hblank h hrest
  | element => exact h.elim
  | item t i more =>
    rw [written, List.append_assoc, List.append_assoc]
    exact hblank h.1 (endsText_item i)

/-- **A document is read as the events that it has.** -/
theorem Document.events_written (d : Document) (h : d.HasPlainInstructions) :
    Markup.events d.written = d.events := by
  have hhead : d.written.head? ≠ some '\ufeff' := by
    rw [written, content, Content.written_append]
    exact d.front_isMisc.head?_ne endsText_cons
  have hread : eventsIn [] (d.written ++ []) = d.events ++ eventsIn [] [] :=
    eventsIn_written d.content h nofun
  rw [List.append_nil, eventsIn_nil, List.append_nil] at hread
  rw [Markup.events, if_neg hhead]
  exact hread

/-- Whether the reader finds the events of a document: its instructions are plain, or they are no
trouble all the same. -/
def Document.IsRead (d : Document) : Prop :=
  d.HasPlainInstructions ∨ Markup.events d.written = d.events

lemma Document.IsRead.events_eq {d : Document} (h : d.IsRead) :
    Markup.events d.written = d.events :=
  h.elim d.events_written id

end QueueClient.Markup
