/-
# What a content leaves in the reading of an error body

The reader heeds the names `Error`, `Code` and `Message` at any depth (`Role`), and text only while
it is behind the start of a `Code` or a `Message` and before the next end of one.  So all that a
content does to a reading is in its trail (`Content.trail`): where elements with these names start
and end, and the texts that stand in one of the two that are read (`foldl_events`).
-/
import QueueClient.ErrorBody
import QueueClient.Proofs.Markup.Escape

namespace QueueClient.ErrorBody

open Markup (Content Event Item Plain QualifiedName Tag textEvents trim trimEnd)

/-! ## Names that count -/

/-- The name of the element that is read. -/
def Field.name : Field → String
  | .code => "Code"
  | .message => "Message"

/-- What an element is for the reader. -/
inductive Role where
  | error
  | field (f : Field)
  | other
deriving DecidableEq

/-- The name of an element without its namespace. -/
def localName (t : Tag) : String := String.ofList t.name.base.signs

/-- What an element is for the reader, by its name without the namespace. -/
def role (t : Tag) : Role :=
  if localName t = "Error" then .error
  else if localName t = Field.code.name then .field .code
  else if localName t = Field.message.name then .field .message
  else .other

lemma role_of_error {t : Tag} (h : localName t = "Error") : role t = .error := if_pos h

lemma role_of_field {t : Tag} {f : Field} (h : localName t = f.name) : role t = .field f := by
  rw [role, h]
  cases f <;> rfl

namespace Reading

variable {r : Reading} {t : Tag}

/-- What is read when an element starts. -/
def enter (r : Reading) : Role → Reading
  | .error => { r with inError := true }
  | .field f => if r.inError then { r with current := some f } else r
  | .other => r

/-- What is read when an element ends. -/
def leave (r : Reading) : Role → Reading
  | .error => { r with inError := false }
  | .field _ => { r with current := none }
  | .other => r

lemma step_start (r : Reading) (t : Tag) : r.step (.start t.name.written) = r.enter (role t) := by
  rw [step, QualifiedName.localName_written, ← localName, role]
  split_ifs <;> simp_all [enter, Field.name]

lemma step_finish (r : Reading) (t : Tag) : r.step (.finish t.name.written) = r.leave (role t) := by
  rw [step, QualifiedName.localName_written, ← localName, role]
  split_ifs <;> simp_all [leave, Field.name]

/-- While nothing is collected, what is said is passed over. -/
lemma step_of_none (h : r.current = none) {e : Event}
    (he : ∀ name, e ≠ .start name ∧ e ≠ .finish name) : r.step e = r := by
  cases e with
  | start name => exact absurd rfl (he name).1
  | finish name => exact absurd rfl (he name).2
  | text raw =>
    rw [step]
    split
    · rw [collect, h]
    · rfl
  | literal content => rw [step, collect, h]
  | other => rfl

lemma foldl_textEvents_of_none (h : r.current = none) (cs : List Char) :
    (textEvents cs).foldl step r = r := by
  unfold textEvents
  split
  · rfl
  · exact step_of_none (e := .text _) h fun _ => ⟨nofun, nofun⟩

lemma step_item_of_none (h : r.current = none) (i : Item) : r.step i.event = r :=
  step_of_none h fun _ => by cases i <;> exact ⟨nofun, nofun⟩

end Reading

/-! ## Trails -/

/-- Something that can make a difference to a reading. -/
inductive Mark where
  | enter (role : Role)
  | leave (role : Role)
  | say (e : Event)
deriving DecidableEq

/-- What is read after a mark. -/
def Reading.heed (r : Reading) : Mark → Reading
  | .enter role => r.enter role
  | .leave role => r.leave role
  | .say e => r.step e

/-- The marks that a content leaves.  What is said counts in an element that is read. -/
def trail (inField : Bool) : Content → List Mark
  | .text t => said t.signs
  | .element t tag inner more =>
    said t.signs ++
      (match role tag with
        | .error => .enter .error :: trail inField inner ++ [.leave .error]
        | .field f => .enter (.field f) :: trail true inner ++ [.leave (.field f)]
        | .other => trail inField inner) ++
      trail inField more
  | .item t i more =>
    said t.signs ++ (if inField then [.say i.event] else []) ++ trail inField more
where
  /-- The marks of a text. -/
  said (cs : List Char) : List Mark := if inField then (textEvents cs).map .say else []

variable {r : Reading} {inField : Bool}

lemma foldl_said (h : inField = false → r.current = none) (cs : List Char) :
    (textEvents cs).foldl Reading.step r = (trail.said inField cs).foldl Reading.heed r := by
  cases inField with
  | false => exact Reading.foldl_textEvents_of_none (h rfl) cs
  | true =>
    rw [trail.said, if_pos rfl, List.foldl_map]
    rfl

/-- Where nothing is collected before a content, nothing is collected behind it: what starts in it
ends in it. -/
lemma current_foldl_events (c : Content) (h : r.current = none) :
    (c.events.foldl Reading.step r).current = none := by
  induction c generalizing r with
  | text t =>
    rw [Content.events, Reading.foldl_textEvents_of_none h]
    exact h
  | item t i more ih =>
    rw [Content.events, List.foldl_append, Reading.foldl_textEvents_of_none h, List.foldl_cons,
      Reading.step_item_of_none h]
    exact ih h
  | element t tag inner more ih_inner ih_more =>
    simp only [Content.events, List.foldl_append, List.foldl_cons,
      Reading.foldl_textEvents_of_none h, Reading.step_start, Reading.step_finish]
    refine ih_more ?_
    cases role tag with
    | error => exact ih_inner (r := { r with inError := true }) h
    | field f => rfl
    | other => exact ih_inner h

/-- **A content does to a reading what its trail does.**  In the elements that are read all that is
said is in the trail; outside of them nothing is collected. -/
theorem foldl_events (inField : Bool) (c : Content) (h : inField = false → r.current = none) :
    c.events.foldl Reading.step r = (trail inField c).foldl Reading.heed r := by
  induction c generalizing inField r with
  | text t => exact foldl_said h _
  | item t i more ih =>
    rw [Content.events, trail, List.foldl_append, List.foldl_append, List.foldl_append,
      ← foldl_said h, List.foldl_cons]
    cases inField with
    | false =>
      rw [Reading.foldl_textEvents_of_none (h rfl), Reading.step_item_of_none (h rfl)]
      exact ih false h
    | true => exact ih true (by simp)
  | element t tag inner more ih_inner ih_more =>
    have hcurrent : inField = false → ((textEvents t.signs).foldl Reading.step r).current = none :=
      fun hout => by
        rw [Reading.foldl_textEvents_of_none (h hout)]
        exact h hout
    simp only [Content.events, trail, List.foldl_append, List.foldl_cons, ← foldl_said h,
      Reading.step_start, Reading.step_finish]
    generalize (textEvents t.signs).foldl Reading.step r = r at hcurrent
    cases role tag with
    | error =>
      have hin : inField = false → (r.enter .error).current = none := hcurrent
      have hout : inField = false →
          ((inner.events.foldl Reading.step (r.enter .error)).leave .error).current = none :=
        fun hfalse => current_foldl_events inner (hin hfalse)
      rw [ih_more inField hout, ih_inner inField hin]
      simp only [List.foldl_append, List.foldl_cons, List.foldl_nil, Reading.heed]
    | field f =>
      have hout : inField = false →
          ((inner.events.foldl Reading.step (r.enter (.field f))).leave (.field f)).current =
            none := fun _ => rfl
      rw [ih_more inField hout, ih_inner true (by simp)]
      simp only [List.foldl_append, List.foldl_cons, List.foldl_nil, Reading.heed]
    | other =>
      have hout : inField = false →
          ((inner.events.foldl Reading.step (r.enter .other)).leave .other).current = none :=
        fun hfalse => current_foldl_events inner (hcurrent hfalse)
      rw [ih_more inField hout, Reading.leave, Reading.enter, ih_inner inField hcurrent]

/-! ## Trails of contents put together -/

lemma trail_append_element (b : Bool) (c : Content) (tag : Tag) (inner more : Content) :
    trail b (c.append (.element .empty tag inner more)) =
      trail b c ++ trail b (.element .empty tag inner more) := by
  induction c with
  | text t =>
    cases b <;> simp [Content.append, Content.after, trail, trail.said, Plain.append, Plain.empty,
      textEvents, trim, trimEnd]
  | element t tag' inner' more' _ ih => simp only [Content.append, trail, ih, List.append_assoc]
  | item t i more' ih => simp only [Content.append, trail, ih, List.append_assoc]

/-- What stands around the outermost element leaves no trail. -/
lemma trail_of_isMisc {c : Content} (h : c.IsMisc) : trail false c = [] := by
  induction c with
  | text t => rfl
  | element => exact h.elim
  | item t i more ih => exact ih h.2.2

/-- Whether no element of a content has a name that counts. -/
def IsForeign : Content → Prop
  | .text _ => True
  | .element _ tag inner more => role tag = .other ∧ IsForeign inner ∧ IsForeign more
  | .item _ _ more => IsForeign more

/-- A content without the names that count leaves no trail, whatever it says. -/
lemma trail_of_isForeign {c : Content} (h : IsForeign c) : trail false c = [] := by
  induction c with
  | text t => rfl
  | element t tag inner more ih_inner ih_more =>
    rw [trail, h.1, ih_inner h.2.1, ih_more h.2.2]
    rfl
  | item t i more ih => exact ih h

end QueueClient.ErrorBody
