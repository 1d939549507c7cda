/-
# What else stands in an error

The content of an error besides its two fields is passed over as far as it leaves no trail: it can
be replaced by any other with the same trail (`read_withOthers`), and if no element of it has a
name that counts, the fields say what they say.  An element further down that is called `Code` or
`Message` does leave a trail, though the error has no such child: its text is read with that of the
field (`exists_inner_code_read`).
-/
import QueueClient.Proofs.ErrorBody.Fields

namespace QueueClient.ErrorBody

open Markup (Chunk Content Document Tag)

namespace ErrorDocument

/-- The error with the same fields and other content around them. -/
def withOthers (d : ErrorDocument) (before between after : Content) : ErrorDocument :=
  { d with before, between, after }

/-- **The other content of an error matters by its trail only**: replaced by any content with the
same trail it changes neither the code nor the message, and where it holds no name that counts,
they are the texts of the two fields. -/
theorem read_withOthers {d : ErrorDocument} {before between after : Content}
    (hread : d.document.IsRead) (hread' : (d.withOthers before between after).document.IsRead)
    (hbefore : trail false before = trail false d.before)
    (hbetween : trail false between = trail false d.between)
    (hafter : trail false after = trail false d.after) :
    read (d.withOthers before between after).written = read d.written ∧
      (IsForeign before → IsForeign between → IsForeign after →
        read d.written = (d.said .code, d.said .message)) := by
  have hsame : read (d.withOthers before between after).written = read d.written := by
    have htrail : trail false (d.withOthers before between after).document.content =
        trail false d.document.content := by
      rw [trail_content, trail_content]
      simp only [withOthers, hbefore, hbetween, hafter]
      rfl
    rw [read_written _ hread', read_written _ hread, htrail]
  refine ⟨hsame, fun foreign_before foreign_between foreign_after => ?_⟩
  rw [← hsame]
  exact read_of_isForeign hread' foreign_before foreign_between foreign_after

/-- A queue that does not exist, with some content between the code and the message. -/
def missingQueue (between : Content) : ErrorDocument where
  front := .nil
  front_isMisc := Content.isMisc_nil
  root := .plain ⟨none, errorName⟩
  root_name := by decide
  before := .nil
  first := .code
  between := between
  after := .nil
  tag := Field.tag
  tag_name := Field.localName_tag
  chunks := Field.pick [.text "QueueNotFound".toList (by decide) (by decide)]
    [.text "missing".toList (by decide) (by decide)]
  back := .nil
  back_isMisc := Content.isMisc_nil

/-- More about an error: an element with another element in it. -/
def details (tag : Tag) : Content :=
  .element .empty (.plain ⟨none, ⟨"Details".toList, by decide, by decide⟩⟩)
    (.element .empty tag (.text ⟨"Inner".toList, by decide⟩) .nil) .nil

example : (missingQueue (details Field.code.tag)).written =
    ("<Error><Code>QueueNotFound</Code><Details><Code>Inner</Code></Details>" ++
      "<Message>missing</Message></Error>").toList := by decide +kernel

lemma isRead_missingQueue {between : Content} (h : between.HasPlainInstructions) :
    (missingQueue between).document.IsRead :=
  .inl ((hasPlainInstructions_document _).2 ⟨trivial, trivial, h, trivial, trivial⟩)

/-- A tag that does not count. -/
def hint : Tag := .plain ⟨none, ⟨"Hint".toList, by decide, by decide⟩⟩

theorem read_withOthers_hint :
    (missingQueue .nil).document.IsRead ∧
      ((missingQueue .nil).withOthers .nil (details hint) .nil).document.IsRead ∧
      trail false (details hint) = trail false .nil ∧
      read ((missingQueue .nil).withOthers .nil (details hint) .nil).written =
        read (missingQueue .nil).written ∧
      read (missingQueue .nil).written = (some "QueueNotFound".toList, some "missing".toList) := by
  have hnil : (missingQueue .nil).document.IsRead := isRead_missingQueue trivial
  have hhint : (missingQueue (details hint)).document.IsRead :=
    isRead_missingQueue ⟨⟨trivial, trivial⟩, trivial⟩
  have htrail : trail false (details hint) = trail false .nil := by decide
  have hforeign : IsForeign (details hint) :=
    ⟨by decide, ⟨by decide, trivial, trivial⟩, trivial⟩
  obtain ⟨hsame, hsaid⟩ := read_withOthers hnil hhint rfl htrail rfl
  exact ⟨hnil, hhint, htrail, hsame, (hsaid trivial hforeign trivial).trans (by decide)⟩

/-- **An element further down is read as well**: with a `Code` inside another child the same error
is read with another code. -/
theorem exists_inner_code_read :
    ∃ (d : ErrorDocument) (between : Content),
      d.document.IsRead ∧ (d.withOthers d.before between d.after).document.IsRead ∧
      read d.written = (some "QueueNotFound".toList, some "missing".toList) ∧
      read (d.withOthers d.before between d.after).written =
        (some "QueueNotFoundInner".toList, some "missing".toList) := by
  have hnil : (missingQueue .nil).document.IsRead := isRead_missingQueue trivial
  have hinner : (missingQueue (details Field.code.tag)).document.IsRead :=
    isRead_missingQueue ⟨⟨trivial, trivial⟩, trivial⟩
  refine ⟨missingQueue .nil, details Field.code.tag, hnil, hinner, ?_, ?_⟩
  · rw [read_written _ hnil]
    decide +kernel
  · refine (read_written _ hinner).trans ?_
    decide +kernel

end ErrorDocument

end QueueClient.ErrorBody
