/-
# Escaped text

The five signs that markup is made of are written as entities, and the reader of entities gives them
back (`unescape?_escape`).  An element that holds text only holds it in chunks: escaped, or taken
as it is (`Chunk`).  Escaped chunks without anything between them are one text for the reader
(`Content.ofChunks`).
-/
import QueueClient.Proofs.Markup.Reading

namespace QueueClient.Markup

/-! ## Escapes -/

/-- A sign as it is written in text. -/
def escapeSign (c : Char) : List Char :=
  if c = '<' then ['&', 'l', 't', ';']
  else if c = '>' then ['&', 'g', 't', ';']
  else if c = '&' then ['&', 'a', 'm', 'p', ';']
  else if c = '\'' then ['&', 'a', 'p', 'o', 's', ';']
  else if c = '"' then ['&', 'q', 'u', 'o', 't', ';']
  else [c]

/-- A text with the signs of markup escaped. -/
def escape (cs : List Char) : List Char := cs.flatMap escapeSign

lemma escape_append (cs ds : List Char) : escape (cs ++ ds) = escape cs ++ escape ds :=
  List.flatMap_append

/-- A sign is written as it is, or as the entity that stands for it. -/
lemma escapeSign_cases (c : Char) :
    escapeSign c = [c] ∧ c ≠ '<' ∧ c ≠ '&' ∨
      ∃ name, escapeSign c = '&' :: name ++ [';'] ∧ entity? name = some c ∧
        (∀ d ∈ name, d ≠ ';' ∧ d ≠ '&' ∧ d ≠ '<') ∧ isSpace c = false := by
  unfold escapeSign
  split_ifs with hlt hgt hamp hapos hquot
  · subst hlt
    exact .inr ⟨['l', 't'], rfl, by decide, by simp, by decide⟩
  · subst hgt
    exact .inr ⟨['g', 't'], rfl, by decide, by simp, by decide⟩
  · subst hamp
    exact .inr ⟨['a', 'm', 'p'], rfl, by decide, by simp, by decide⟩
  · subst hapos
    exact .inr ⟨['a', 'p', 'o', 's'], rfl, by decide, by simp, by decide⟩
  · subst hquot
    exact .inr ⟨['q', 'u', 'o', 't'], rfl, by decide, by simp, by decide⟩
  · exact .inl ⟨rfl, hlt, hamp⟩

lemma entityName?_append {name : List Char} (h : ∀ d ∈ name, d ≠ ';' ∧ d ≠ '&')
    (rest : List Char) : entityName? (name ++ ';' :: rest) = some (name, rest) := by
  induction name with
  | nil => rfl
  | cons d name ih =>
    obtain ⟨hsemicolon, hamp⟩ := h d List.mem_cons_self
    rw [List.cons_append, entityName?, if_neg hsemicolon, if_neg hamp,
      ih fun e he => h e (List.mem_cons_of_mem d he)]

/-- The entity of a sign is read as the sign. -/
lemma unescape?_escapeSign (c : Char) (rest : List Char) :
    unescape? (escapeSign c ++ rest) = (unescape? rest).map (c :: ·) := by
  rcases escapeSign_cases c with ⟨hwritten, -, hamp⟩ | ⟨name, hwritten, hentity, hname, -⟩
  · rw [hwritten, List.singleton_append, unescape?, if_neg hamp]
  · have hcut := entityName?_append (fun d hd => ⟨(hname d hd).1, (hname d hd).2.1⟩) rest
    rw [hwritten, List.cons_append, List.cons_append, List.append_assoc, List.singleton_append,
      unescape?, if_pos rfl]
    split
    · next heq =>
      obtain ⟨rfl, rfl⟩ := Prod.mk.injEq .. ▸ Option.some.inj (hcut.symm.trans heq)
      rw [hentity]
      cases unescape? rest <;> rfl
    · next heq => cases hcut.symm.trans heq

/-- **What is escaped is read as it was.** -/
theorem unescape?_escape (cs : List Char) : unescape? (escape cs) = some cs := by
  induction cs with
  | nil => rw [escape, List.flatMap_nil, unescape?]
  | cons c cs ih =>
    rw [escape, List.flatMap_cons, unescape?_escapeSign, ← escape, ih, Option.map_some]

lemma escapeSign_ne_nil (c : Char) : escapeSign c ≠ [] := by
  rcases escapeSign_cases c with ⟨h, -⟩ | ⟨name, h, -⟩ <;> simp [h]

/-- No escaped text looks like markup. -/
lemma notMem_escape (cs : List Char) : '<' ∉ escape cs := fun h => by
  obtain ⟨c, -, hc⟩ := List.mem_flatMap.1 h
  rcases escapeSign_cases c with ⟨hwritten, hlt, -⟩ | ⟨name, hwritten, -, hname, -⟩
  · rw [hwritten, List.mem_singleton] at hc
    exact hlt hc.symm
  · simp only [hwritten, List.mem_cons, List.mem_append, List.cons_append] at hc
    rcases hc with hc | hc | hc | hc
    · exact absurd hc (by decide)
    · exact (hname _ hc).2.2 rfl
    · exact absurd hc (by decide)
    · cases hc

/-! ## Blanks at the ends -/

/-- Whether a text neither starts nor ends with a blank. -/
structure IsTrimmed (cs : List Char) : Prop where
  head : ∀ c, cs.head? = some c → isSpace c = false
  last : ∀ c, cs.getLast? = some c → isSpace c = false

namespace IsTrimmed

variable {cs ds : List Char}

instance : Decidable (IsTrimmed cs) :=
  decidable_of_iff (cs.head?.any isSpace = false ∧ cs.getLast?.any isSpace = false)
    ⟨fun h => ⟨(Option.any_eq_false _ _).1 h.1, (Option.any_eq_false _ _).1 h.2⟩,
      fun h => ⟨(Option.any_eq_false _ _).2 h.head, (Option.any_eq_false _ _).2 h.last⟩⟩

lemma append (h : IsTrimmed cs) (h' : IsTrimmed ds) : IsTrimmed (cs ++ ds) where
  head := fun c hc => by
    rw [List.head?_append, Option.or_eq_some_iff] at hc
    exact hc.elim (h.head c) fun hc => h'.head c hc.2
  last := fun c hc => by
    rw [List.getLast?_append, Option.or_eq_some_iff] at hc
    exact hc.elim (h'.last c) fun hc => h.last c hc.2

/-- Nothing is cut off from a text without blanks at its ends. -/
lemma trim_eq (h : IsTrimmed cs) : trim cs = cs := by
  have hfront : cs.dropWhile isSpace = cs := by
    cases cs with
    | nil => rfl
    | cons c cs => rw [List.dropWhile_cons_of_neg (by simp [h.head c rfl])]
  have hback : cs.rdropWhile isSpace = cs := List.rdropWhile_eq_self_iff.2 fun hcs => by
    simp [h.last _ (List.getLast?_eq_some_getLast hcs)]
  rw [trim, hfront]
  exact hback

lemma escapeSign {c : Char} (h : isSpace c = false) : IsTrimmed (escapeSign c) := by
  rcases escapeSign_cases c with ⟨hwritten, -, -⟩ | ⟨name, hwritten, -, -, -⟩
  · rw [hwritten]
    constructor <;>
    · intro d hd
      rw [← Option.some.inj hd]
      exact h
  · rw [hwritten]
    constructor
    · intro d hd
      rw [← Option.some.inj hd]
      decide
    · intro d hd
      rw [List.getLast?_concat] at hd
      rw [← Option.some.inj hd]
      decide

/-- Escapes have no blanks at their ends, so the ends of a text keep as they are. -/
lemma escape (h : IsTrimmed cs) : IsTrimmed (Markup.escape cs) where
  head := fun d hd => by
    cases cs with
    | nil => cases hd
    | cons c cs =>
      rw [Markup.escape, List.flatMap_cons,
        List.head?_append_of_ne_nil _ (escapeSign_ne_nil c)] at hd
      exact (escapeSign (h.head c rfl)).head d hd
  last := fun d hd => by
    rcases List.eq_nil_or_concat' cs with rfl | ⟨front, c, rfl⟩
    · cases hd
    · have hwritten : Markup.escape (front ++ [c]) =
          Markup.escape front ++ Markup.escapeSign c := by
        rw [escape_append, Markup.escape, Markup.escape, List.flatMap_singleton]
      rw [hwritten, List.getLast?_append_of_ne_nil _ (escapeSign_ne_nil c)] at hd
      exact (escapeSign (h.last c List.getLast?_concat)).last d hd

end IsTrimmed

/-! ## Chunks -/

/-- A piece of the text of an element: escaped, without blanks at its ends, or taken as it is. -/
inductive Chunk where
  | text (cs : List Char) (ne_nil : cs ≠ []) (trimmed : IsTrimmed cs)
  | literal (cs : List Char) (ne_nil : cs ≠ []) (unclosed : ¬ [']', ']', '>'] <:+: cs)

namespace Chunk

/-- What the chunk says. -/
def said : Chunk → List Char
  | .text cs _ _ => cs
  | .literal cs _ _ => cs

/-- The chunk as it is written. -/
def written : Chunk → List Char
  | .text cs _ _ => escape cs
  | .literal cs _ unclosed => (Item.literal cs unclosed).written

end Chunk

/-- An escaped text. -/
def Plain.escaped (cs : List Char) : Plain := ⟨escape cs, notMem_escape cs⟩

namespace Content

/-- The content that consists of chunks. -/
def ofChunks : List Chunk → Content
  | [] => .nil
  | .text cs _ _ :: chunks => (ofChunks chunks).after (.escaped cs)
  | .literal cs _ unclosed :: chunks => .item .empty (.literal cs unclosed) (ofChunks chunks)

/-- The chunks are written one behind the other. -/
lemma written_ofChunks (chunks : List Chunk) :
    (ofChunks chunks).written = chunks.flatMap Chunk.written := by
  induction chunks with
  | nil => rfl
  | cons chunk chunks ih =>
    rw [List.flatMap_cons, ← ih]
    cases chunk with
    | text cs => exact written_after _ _
    | literal cs => rfl

lemma hasPlainInstructions_ofChunks (chunks : List Chunk) :
    (ofChunks chunks).HasPlainInstructions := by
  induction chunks with
  | nil => trivial
  | cons chunk chunks ih =>
    cases chunk with
    | text cs => exact hasPlainInstructions_after.2 ih
    | literal cs => exact ⟨trivial, ih⟩

/-- One escaped text behind another is one escaped text. -/
lemma after_escaped_after (cs ds : List Char) (c : Content) :
    (c.after (.escaped ds)).after (.escaped cs) = c.after (.escaped (cs ++ ds)) := by
  cases c <;> simp [after, Plain.escaped, Plain.append, escape_append]

end Content

end QueueClient.Markup
