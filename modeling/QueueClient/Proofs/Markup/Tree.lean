/-
# Documents as trees

Well-formed XML: a content is text with elements and other markup in it (`Content`), a document
one element with comments and instructions around it (`Document`).  The parts hold the proofs of
what must not occur in them, so a tree that can be built can be written (`Content.written`), and it
has the events that it has by its shape (`Content.events`).
-/
import Mathlib.Data.List.Basic
import QueueClient.Markup.Event

namespace QueueClient.Markup

/-! ## Names and tags -/

/-- A sign that a name can hold: no blank, and none of the signs that markup is made of. -/
def isNameSign (c : Char) : Bool := !isSpace c && !"<>&/!?=:\"'".toList.contains c

/-- Nothing but blanks. -/
structure Blank where
  signs : List Char
  isBlank : signs.all isSpace = true

lemma Blank.isSpace_of_mem {b : Blank} {c : Char} (h : c ∈ b.signs) : isSpace c = true :=
  List.all_eq_true.1 b.isBlank c h

/-- A name without a colon. -/
structure Name where
  signs : List Char
  ne_nil : signs ≠ []
  allowed : signs.all isNameSign = true

lemma Name.isNameSign_of_mem {m : Name} {c : Char} (h : c ∈ m.signs) : isNameSign c = true :=
  List.all_eq_true.1 m.allowed c h

/-- A name, with the short form of a namespace in front of it or without one. -/
structure QualifiedName where
  space : Option Name
  base : Name

/-- The name as it is written. -/
def QualifiedName.written (n : QualifiedName) : List Char :=
  match n.space with
  | some s => s.signs ++ ':' :: n.base.signs
  | none => n.base.signs

/-- An attribute, with the blanks before it and around its `=`. -/
structure Attribute where
  gap : Blank
  gap_ne_nil : gap.signs ≠ []
  name : QualifiedName
  before : Blank
  after : Blank
  quote : Char
  isQuote : quote = '"' ∨ quote = '\''
  value : List Char
  unquoted : quote ∉ value

/-- The attribute as it is written. -/
def Attribute.written (a : Attribute) : List Char :=
  a.gap.signs ++ a.name.written ++ a.before.signs ++ '=' :: a.after.signs ++
    a.quote :: a.value ++ [a.quote]

/-- The tags of an element, with the blanks at the end of either. -/
structure Tag where
  name : QualifiedName
  attributes : List Attribute
  gap : Blank
  endGap : Blank

namespace Tag

/-- The start tag between its brackets. -/
def inside (t : Tag) : List Char :=
  t.name.written ++ t.attributes.flatMap Attribute.written ++ t.gap.signs

/-- The start tag. -/
def opening (t : Tag) : List Char := '<' :: t.inside ++ ['>']

/-- The end tag. -/
def closing (t : Tag) : List Char := '<' :: '/' :: t.name.written ++ t.endGap.signs ++ ['>']

/-- A tag with nothing but a name in it. -/
def plain (name : QualifiedName) : Tag :=
  { name, attributes := [], gap := ⟨[], rfl⟩, endGap := ⟨[], rfl⟩ }

end Tag

/-! ## Content -/

/-- Text between markup. -/
structure Plain where
  signs : List Char
  unmarked : '<' ∉ signs

namespace Plain

/-- No text. -/
def empty : Plain := ⟨[], by simp⟩

/-- One text behind another. -/
def append (t u : Plain) : Plain :=
  ⟨t.signs ++ u.signs, by simp [t.unmarked, u.unmarked]⟩

end Plain

/-- Markup without elements in it. -/
inductive Item where
  /-- An element that is closed at once. -/
  | void (tag : Tag)
  /-- A comment. -/
  | comment (text : List Char) (unclosed : ¬ ['-', '-'] <:+: text)
  /-- Text that is taken as it is. -/
  | literal (text : List Char) (unclosed : ¬ [']', ']', '>'] <:+: text)
  /-- An instruction, such as the declaration in front of a document. -/
  | instruction (text : List Char) (ne_nil : text ≠ []) (unclosed : ¬ ['?', '>'] <:+: text)

namespace Item

/-- The item as it is written. -/
def written : Item → List Char
  | .void tag => '<' :: tag.inside ++ ['/', '>']
  | .comment text _ => ['<', '!', '-', '-'] ++ text ++ ['-', '-', '>']
  | .literal text _ =>
    ['<', '!', '[', 'C', 'D', 'A', 'T', 'A', '['] ++ text ++ [']', ']', '>']
  | .instruction text _ _ => ['<', '?'] ++ text ++ ['?', '>']

/-- The event of the item. -/
def event : Item → Event
  | .literal text _ => .literal text
  | .void _ | .comment _ _ | .instruction _ _ _ => .other

/-- Whether the item can stand outside of the outermost element. -/
def IsMisc : Item → Prop
  | .comment _ _ | .instruction _ _ _ => True
  | .void _ | .literal _ _ => False

/-- An instruction is plain if it holds no `>`, not even one that does not end it. -/
def IsPlain : Item → Prop
  | .instruction text _ _ => '>' ∉ text
  | .void _ | .comment _ _ | .literal _ _ => True

end Item

/-- What stands in an element: text, or some text and then an element or an item, with more content
behind it. -/
inductive Content where
  | text (t : Plain)
  | element (t : Plain) (tag : Tag) (inner more : Content)
  | item (t : Plain) (i : Item) (more : Content)

/-- A text without the blanks at either end. -/
def trim (cs : List Char) : List Char := trimEnd (cs.dropWhile isSpace)

/-- The event of a text, which has none if it is blank. -/
def textEvents (cs : List Char) : List Event :=
  if trim cs = [] then [] else [.text (trim cs)]

namespace Content

/-- The content as it is written. -/
def written : Content → List Char
  | .text t => t.signs
  | .element t tag inner more =>
    t.signs ++ tag.opening ++ inner.written ++ tag.closing ++ more.written
  | .item t i more => t.signs ++ i.written ++ more.written

/-- The events of the content. -/
def events : Content → List Event
  | .text t => textEvents t.signs
  | .element t tag inner more =>
    textEvents t.signs ++ .start tag.name.written :: inner.events ++
      .finish tag.name.written :: more.events
  | .item t i more => textEvents t.signs ++ i.event :: more.events

/-- Whether the content can stand outside of the outermost element. -/
def IsMisc : Content → Prop
  | .text t => ∀ c ∈ t.signs, isSpace c = true
  | .element _ _ _ _ => False
  | .item t i more => (∀ c ∈ t.signs, isSpace c = true) ∧ i.IsMisc ∧ more.IsMisc

/-- Whether all instructions of the content are plain. -/
def HasPlainInstructions : Content → Prop
  | .text _ => True
  | .element _ _ inner more => inner.HasPlainInstructions ∧ more.HasPlainInstructions
  | .item _ i more => i.IsPlain ∧ more.HasPlainInstructions

/-- Nothing. -/
def nil : Content := .text .empty

lemma isMisc_nil : nil.IsMisc := fun _ h => absurd h List.not_mem_nil

/-- Text in front of a content. -/
def after (t : Plain) : Content → Content
  | .text u => .text (t.append u)
  | .element u tag inner more => .element (t.append u) tag inner more
  | .item u i more => .item (t.append u) i more

/-- One content behind another. -/
def append : Content → Content → Content
  | .text t, c => c.after t
  | .element t tag inner more, c => .element t tag inner (more.append c)
  | .item t i more, c => .item t i (more.append c)

lemma written_after (t : Plain) (c : Content) : (c.after t).written = t.signs ++ c.written := by
  cases c <;> simp [after, written, Plain.append]

lemma written_append (c d : Content) : (c.append d).written = c.written ++ d.written := by
  induction c with
  | text t => exact written_after t d
  | element t tag inner more _ ih => simp [append, written, ih]
  | item t i more ih => simp [append, written, ih]

lemma hasPlainInstructions_after {t : Plain} {c : Content} :
    (c.after t).HasPlainInstructions ↔ c.HasPlainInstructions := by
  cases c <;> rfl

lemma hasPlainInstructions_append_element {c : Content} {tag : Tag} {inner more : Content} :
    (c.append (.element .empty tag inner more)).HasPlainInstructions ↔
      c.HasPlainInstructions ∧ inner.HasPlainInstructions ∧ more.HasPlainInstructions := by
  induction c with
  | text t => simp [append, hasPlainInstructions_after, HasPlainInstructions]
  | element t tag' inner' more' _ ih => simp [append, HasPlainInstructions, ih, and_assoc]
  | item t i more' ih => simp [append, HasPlainInstructions, ih, and_assoc]

end Content

/-- A document: an element with comments, instructions and blanks around it. -/
structure Document where
  front : Content
  front_isMisc : front.IsMisc
  root : Tag
  inner : Content
  back : Content
  back_isMisc : back.IsMisc

namespace Document

variable (d : Document)

/-- All of the document. -/
def content : Content := d.front.append (.element .empty d.root d.inner d.back)

/-- The document as it is written. -/
def written : List Char := d.content.written

/-- The events of the document. -/
def events : List Event := d.content.events

/-- Whether all instructions of the document are plain. -/
def HasPlainInstructions : Prop := d.content.HasPlainInstructions

end Document

end QueueClient.Markup
