/-
# The code and the message of an error

An error document is an `Error` element with a `Code`, a `Message` and any content before, between
and behind them (`ErrorDocument`).  What is read of it is told by the marks that its parts leave
(`foldl_document`): if the other content has no names that count, these are the two texts
(`read_of_isForeign`), and in any case the other content matters by its trail only.
-/
import QueueClient.Proofs.Encoding.RoundTrip
import QueueClient.Proofs.ErrorBody.Trail

namespace QueueClient.ErrorBody

open Markup (Chunk Content Document Event IsTrimmed Item Name Plain Tag textEvents)

/-- The other one of the two. -/
def Field.opposite : Field → Field
  | .code => .message
  | .message => .code

/-- An error with a code and a message, in the order in which they come. -/
structure ErrorDocument where
  front : Content
  front_isMisc : front.IsMisc
  root : Tag
  root_name : localName root = "Error"
  before : Content
  first : Field
  between : Content
  after : Content
  tag : Field → Tag
  tag_name : ∀ f, localName (tag f) = f.name
  chunks : Field → List Chunk
  back : Content
  back_isMisc : back.IsMisc

namespace ErrorDocument

variable (d : ErrorDocument)

/-- The content of the error. -/
def inner : Content :=
  d.before.append (.element .empty (d.tag d.first) (.ofChunks (d.chunks d.first))
    (d.between.append (.element .empty (d.tag d.first.opposite)
      (.ofChunks (d.chunks d.first.opposite)) d.after)))

/-- The document around the error. -/
def document : Document where
  front := d.front
  front_isMisc := d.front_isMisc
  root := d.root
  inner := d.inner
  back := d.back
  back_isMisc := d.back_isMisc

/-- The document as it is written. -/
def written : List Char := d.document.written

/-- What a field says, if it says anything. -/
def said (f : Field) : Option (List Char) :=
  if d.chunks f = [] then none else some ((d.chunks f).flatMap Chunk.said)

end ErrorDocument

namespace Reading

variable {r : Reading} {f : Field} {chunks : List Chunk}

@[simp] lemma collect_collect (r : Reading) (cs ds : List Char) :
    (r.collect cs).collect ds = r.collect (cs ++ ds) := by
  obtain ⟨inError, _ | _ | _, code, message⟩ := r <;> simp [collect]

lemma step_escape (r : Reading) (cs : List Char) :
    r.step (.text (Markup.escape cs)) = r.collect cs := by
  rw [step, Markup.unescape?_escape]

/-- An escaped text without blanks at its ends is one event. -/
lemma textEvents_escape {cs : List Char} (hne : cs ≠ []) (h : IsTrimmed cs) :
    textEvents (Plain.escaped cs).signs = [.text (Markup.escape cs)] := by
  have hescape : Markup.escape cs ≠ [] := by
    obtain ⟨c, ds, rfl⟩ := List.exists_cons_of_ne_nil hne
    simp [Markup.escape, Markup.escapeSign_ne_nil]
  rw [textEvents, Plain.escaped, h.escape.trim_eq, if_neg hescape]

/-- What chunks say is collected behind what is read already, and behind an escaped text that is
still to be read: an induction with both, as the chunk that comes next decides which one it is. -/
lemma foldl_chunks (chunks : List Chunk) :
    (∀ (r : Reading) (cs : List Char), cs ≠ [] → IsTrimmed cs →
      ((Content.ofChunks chunks).after (.escaped cs)).events.foldl step r =
        r.collect (cs ++ chunks.flatMap Chunk.said)) ∧
    ∀ (r : Reading) (cs : List Char), (Content.ofChunks chunks).events.foldl step (r.collect cs) =
      r.collect (cs ++ chunks.flatMap Chunk.said) := by
  induction chunks with
  | nil =>
    refine ⟨fun r cs hne h => ?_, fun r cs => ?_⟩
    · have hwritten : (Content.nil.after (.escaped cs)).events =
          textEvents (Plain.escaped cs).signs := by
        simp [Content.nil, Content.after, Content.events, Plain.append, Plain.empty]
      rw [Content.ofChunks, hwritten, textEvents_escape hne h, List.flatMap_nil, List.append_nil]
      exact step_escape r cs
    · rw [List.flatMap_nil, List.append_nil]
      rfl
  | cons chunk chunks ih =>
    cases chunk with
    | text ds ds_ne_nil ds_trimmed =>
      refine ⟨fun r cs hne h => ?_, fun r cs => ?_⟩
      · rw [Content.ofChunks, Content.after_escaped_after, List.flatMap_cons, ← List.append_assoc]
        exact ih.1 r (cs ++ ds) (List.append_ne_nil_of_left_ne_nil hne ds) (h.append ds_trimmed)
      · rw [Content.ofChunks, ih.1 _ ds ds_ne_nil ds_trimmed, collect_collect, List.flatMap_cons]
        rfl
    | literal ds _ unclosed =>
      have hstep : ∀ r : Reading, r.step (Item.literal ds unclosed).event = r.collect ds := fun _ =>
        rfl
      refine ⟨fun r cs hne h => ?_, fun r cs => ?_⟩
      · have hwritten : ((Content.item .empty (.literal ds unclosed)
            (Content.ofChunks chunks)).after (.escaped cs)).events =
              textEvents (Plain.escaped cs).signs ++
                (Item.literal ds unclosed).event :: (Content.ofChunks chunks).events := by
          simp [Content.after, Content.events, Plain.append, Plain.empty]
        rw [Content.ofChunks, hwritten, textEvents_escape hne h, List.singleton_append,
          List.foldl_cons, List.foldl_cons, step_escape, hstep, collect_collect, ih.2,
          List.flatMap_cons, List.append_assoc]
        rfl
      · have hwritten : (Content.item .empty (.literal ds unclosed)
            (Content.ofChunks chunks)).events =
              (Item.literal ds unclosed).event :: (Content.ofChunks chunks).events := rfl
        rw [Content.ofChunks, hwritten, List.foldl_cons, hstep, collect_collect, ih.2,
          List.flatMap_cons, List.append_assoc]
        rfl

/-- What chunks say is collected. -/
lemma foldl_ofChunks (r : Reading) {chunks : List Chunk} (h : chunks ≠ []) :
    (Content.ofChunks chunks).events.foldl step r = r.collect (chunks.flatMap Chunk.said) := by
  obtain ⟨chunk, chunks, rfl⟩ := List.exists_cons_of_ne_nil h
  cases chunk with
  | text cs ne_nil trimmed =>
    rw [Content.ofChunks, (foldl_chunks chunks).1 r cs ne_nil trimmed, List.flatMap_cons]
    rfl
  | literal cs _ unclosed => exact (foldl_chunks chunks).2 r cs

/-- What an element that is read adds to a reading. -/
def put (r : Reading) (f : Field) (text : Option (List Char)) : Reading :=
  match f with
  | .code => { r with code := text }
  | .message => { r with message := text }

/-- What is read of a field so far. -/
def slot (r : Reading) : Field → Option (List Char)
  | .code => r.code
  | .message => r.message

end Reading

namespace ErrorDocument

variable (d : ErrorDocument)

/-- The marks of the element of a field. -/
def marks (f : Field) : List Mark :=
  .enter (.field f) :: trail true (.ofChunks (d.chunks f)) ++ [.leave (.field f)]

/-- The marks of a document: those of its two fields, and what the other content adds. -/
lemma trail_content :
    trail false d.document.content =
      .enter .error :: trail false d.before ++ d.marks d.first ++ trail false d.between ++
        d.marks d.first.opposite ++ trail false d.after ++ [.leave .error] := by
  have hfield : ∀ (f : Field) (more : Content),
      trail false (.element .empty (d.tag f) (.ofChunks (d.chunks f)) more) =
        d.marks f ++ trail false more := fun f more => by
    rw [trail, role_of_field (d.tag_name f)]
    rfl
  have hroot : ∀ inner more : Content,
      trail false (.element .empty d.root inner more) =
        .enter .error :: trail false inner ++ [.leave .error] ++ trail false more :=
    fun inner more => by
      rw [trail, role_of_error d.root_name]
      rfl
  have hcontent : d.document.content = d.front.append (.element .empty d.root d.inner d.back) := rfl
  rw [hcontent, trail_append_element, trail_of_isMisc d.front_isMisc, hroot,
    trail_of_isMisc d.back_isMisc]
  simp only [inner, trail_append_element, hfield, List.nil_append, List.append_nil,
    List.cons_append, List.append_assoc]

/-- The element of a field fills the slot of the field. -/
lemma foldl_marks {r : Reading} {f : Field} (hin : r.inError = true) (hcurrent : r.current = none)
    (hslot : r.slot f = none) : (d.marks f).foldl Reading.heed r = r.put f (d.said f) := by
  have hfold : (d.marks f).foldl Reading.heed r =
      ((Content.ofChunks (d.chunks f)).events.foldl Reading.step
        { r with current := some f }).leave (.field f) := by
    rw [foldl_events true _ (by simp), marks]
    simp only [List.cons_append, List.foldl_cons, List.foldl_append, List.foldl_nil, Reading.heed,
      Reading.enter, hin, if_true]
  obtain ⟨inError, current, code, message⟩ := r
  simp only at hcurrent
  subst hcurrent
  by_cases hchunks : d.chunks f = []
  · rw [hfold, said, if_pos hchunks, hchunks]
    cases f <;> simp only [Reading.slot] at hslot <;> rw [hslot] <;> rfl
  · rw [hfold, said, if_neg hchunks, Reading.foldl_ofChunks _ hchunks]
    cases f <;> simp only [Reading.slot] at hslot <;> rw [hslot] <;> rfl

lemma hasPlainInstructions_document :
    d.document.HasPlainInstructions ↔
      d.front.HasPlainInstructions ∧ d.before.HasPlainInstructions ∧
        d.between.HasPlainInstructions ∧ d.after.HasPlainInstructions ∧
        d.back.HasPlainInstructions := by
  simp only [Document.HasPlainInstructions, Document.content, document, inner,
    Content.hasPlainInstructions_append_element, Content.hasPlainInstructions_ofChunks, true_and,
    and_assoc]

/-- What is read of an error document is told by the marks that its parts leave. -/
lemma read_written (h : d.document.IsRead) :
    read d.written =
      (((trail false d.document.content).foldl Reading.heed .start).code,
        ((trail false d.document.content).foldl Reading.heed .start).message) := by
  rw [read, written, h.events_eq, Document.events, foldl_events false _ fun _ => rfl]

variable {d}

/-- Where the names that count are those of the two fields only, these are what is read. -/
lemma read_of_isForeign (h : d.document.IsRead) (hbefore : IsForeign d.before)
    (hbetween : IsForeign d.between) (hafter : IsForeign d.after) :
    read d.written = (d.said .code, d.said .message) := by
  have hfirst : (d.marks d.first).foldl Reading.heed (Reading.start.enter .error) =
      (Reading.start.enter .error).put d.first (d.said d.first) :=
    d.foldl_marks rfl rfl (by cases d.first <;> rfl)
  have hsecond := d.foldl_marks (f := d.first.opposite)
    (r := (Reading.start.enter .error).put d.first (d.said d.first))
    (by cases d.first <;> rfl) (by cases d.first <;> rfl) (by cases d.first <;> rfl)
  rw [d.read_written h, trail_content, trail_of_isForeign hbefore, trail_of_isForeign hbetween,
    trail_of_isForeign hafter]
  simp only [List.cons_append, List.append_assoc, List.nil_append, List.foldl_cons,
    List.foldl_append, List.foldl_nil]
  rw [Reading.heed, hfirst, hsecond]
  cases d.first <;> rfl

end ErrorDocument

/-! ## Main results -/

/-- **What was written into an error body is what the error says.**  The two fields may come in
either order and among any content without the names that count, with any namespaces, attributes
and blanks in the tags, and their texts in any mixture of escaped and literal chunks. -/
theorem ofResponse_document {d : ErrorDocument} (hread : d.document.IsRead)
    (hchunks : ∀ f, d.chunks f ≠ []) (hbefore : IsForeign d.before)
    (hbetween : IsForeign d.between) (hafter : IsForeign d.after) {r : Response}
    (hbody : r.body = Utf8.encode (String.ofList d.written)) :
    (ServiceError.ofResponse r).message =
        String.ofList ((d.chunks .message).flatMap Chunk.said) ∧
      (ServiceError.ofResponse r).code =
        some ((r.headers.text? errorCodeHeader).getD
          (String.ofList ((d.chunks .code).flatMap Chunk.said))) := by
  have hbody : read (Utf8.decodeLossy r.body).toList =
      (some ((d.chunks .code).flatMap Chunk.said),
        some ((d.chunks .message).flatMap Chunk.said)) := by
    rw [hbody, Utf8.decodeLossy_encode, String.toList_ofList,
      ErrorDocument.read_of_isForeign hread hbefore hbetween hafter, ErrorDocument.said,
      ErrorDocument.said, if_neg (hchunks .code), if_neg (hchunks .message)]
  rw [ServiceError.ofResponse, hbody]
  refine ⟨rfl, ?_⟩
  cases r.headers.text? errorCodeHeader <;> rfl

/-- One of two things for each of the fields. -/
def Field.pick {α : Type} (code message : α) : Field → α
  | .code => code
  | .message => message

/-- A tag with nothing in it but the name of a field. -/
def Field.tag (f : Field) : Tag :=
  .plain ⟨none, ⟨f.name.toList, by cases f <;> decide, by cases f <;> decide⟩⟩

lemma Field.localName_tag (f : Field) : localName f.tag = f.name := by cases f <;> decide

/-- The name of an error. -/
def errorName : Name := ⟨"Error".toList, by decide, by decide⟩

/-- An error with everything that a document may have around its texts: a declaration, a namespace,
an attribute, the message in front of the code, an element between them. -/
def outOfRange : ErrorDocument where
  front := .item .empty (.instruction "xml version='1.0'".toList (by decide) (by decide)) .nil
  front_isMisc := ⟨Content.isMisc_nil, trivial, Content.isMisc_nil⟩
  root :=
    { name := ⟨some ⟨['m'], by decide, by decide⟩, errorName⟩
      attributes :=
        [{ gap := ⟨[' '], by decide⟩
           gap_ne_nil := by decide
           name := ⟨some ⟨"xmlns".toList, by decide, by decide⟩, ⟨['m'], by decide, by decide⟩⟩
           before := ⟨[], by decide⟩
           after := ⟨[], by decide⟩
           quote := '"'
           isQuote := .inl rfl
           value := "a>b".toList
           unquoted := by decide }]
      gap := ⟨['\n'], by decide⟩
      endGap := ⟨[], by decide⟩ }
  root_name := by decide
  before := .nil
  first := .message
  between := .element .empty (.plain ⟨none, ⟨['i', 'd'], by decide, by decide⟩⟩)
    (.text ⟨['4', '2'], by decide⟩) .nil
  after := .nil
  tag := Field.tag
  tag_name := Field.localName_tag
  chunks := Field.pick [.text "OutOfRange".toList (by decide) (by decide)]
    [.text "size must be".toList (by decide) (by decide),
      .literal " <= ".toList (by decide) (by decide),
      .text "\"32\"".toList (by decide) (by decide)]
  back := .nil
  back_isMisc := Content.isMisc_nil

lemma isRead_outOfRange : outOfRange.document.IsRead :=
  .inl (outOfRange.hasPlainInstructions_document.2
    ⟨⟨show '>' ∉ "xml version='1.0'".toList by decide, trivial⟩, trivial, ⟨trivial, trivial⟩,
      trivial, trivial⟩)

example : outOfRange.written =
    ("<?xml version='1.0'?><m:Error xmlns:m=\"a>b\"\n><Message>size must be" ++
      "<![CDATA[ <= ]]>&quot;32&quot;</Message><id>42</id><Code>OutOfRange</Code>" ++
      "</m:Error>").toList := by decide +kernel

/-- A response with an error document in its body. -/
def replyWith (d : ErrorDocument) : Response :=
  { (default : Response) with body := Utf8.encode (String.ofList d.written) }

lemma body_replyWith (d : ErrorDocument) :
    (replyWith d).body = Utf8.encode (String.ofList d.written) := rfl

theorem ofResponse_document_outOfRange :
    outOfRange.document.IsRead ∧ (∀ f, outOfRange.chunks f ≠ []) ∧
      IsForeign outOfRange.before ∧ IsForeign outOfRange.between ∧ IsForeign outOfRange.after ∧
      (replyWith outOfRange).body = Utf8.encode (String.ofList outOfRange.written) ∧
      (ServiceError.ofResponse (replyWith outOfRange)).message = "size must be <= \"32\"" ∧
      (ServiceError.ofResponse (replyWith outOfRange)).code = some "OutOfRange" := by
  have hchunks : ∀ f, outOfRange.chunks f ≠ [] := fun f => by cases f <;> nofun
  have hbetween : IsForeign outOfRange.between := ⟨by decide, trivial, trivial⟩
  obtain ⟨hmessage, hcode⟩ :=
    ofResponse_document isRead_outOfRange hchunks trivial hbetween trivial (body_replyWith _)
  refine ⟨isRead_outOfRange, hchunks, trivial, hbetween, trivial, body_replyWith _,
    hmessage.trans ?_, hcode.trans ?_⟩
  · decide
  · decide +kernel

end QueueClient.ErrorBody
