/-
# Markup events

A forgiving reader of XML.  It cuts a text into events, checks that end tags match the open
elements, and stops at the first fault: what was read until then counts.  Every markup
construct starts with `<` and ends at some `>`; which one is decided by what stands between
(`cut`).
-/
import QueueClient.Text.Numeral

namespace QueueClient.Markup

/-- A piece of a document. -/
inductive Event where
  /-- The start tag of an element that is not empty. -/
  | start (name : List Char)
  /-- An end tag. -/
  | finish (name : List Char)
  /-- Text as written, without the blanks around it. -/
  | text (raw : List Char)
  /-- Text that is taken as it is. -/
  | literal (content : List Char)
  /-- An empty element, comment, declaration or instruction. -/
  | other
deriving DecidableEq

/-- The four blanks of XML. -/
def isSpace (c : Char) : Bool := c == ' ' || c == '\t' || c == '\r' || c == '\n'

/-- The name without the part up to its first colon. -/
def localName (name : List Char) : List Char :=
  match name.dropWhile (· ≠ ':') with
  | _ :: rest => rest
  | [] => name

/-- A list without the blanks at its end. -/
def trimEnd (cs : List Char) : List Char := (cs.reverse.dropWhile isSpace).reverse

/-! ## Where a construct ends -/

/-- The text up to the first `>` at which the state reached so far allows to close, and what
follows that `>`. -/
def cut {σ : Type} (step : σ → Char → σ) (closes : σ → Bool) :
    σ → List Char → Option (List Char × List Char)
  | _, [] => none
  | s, c :: cs =>
    if c = '>' ∧ closes s = true then some ([], cs)
    else
      match cut step closes (step s c) cs with
      | some (text, rest) => some (c :: text, rest)
      | none => none

/-- What follows a construct is shorter than the text in which it stands. -/
theorem length_cut {σ : Type} {step : σ → Char → σ} {closes : σ → Bool} {s : σ}
    {cs text rest : List Char} (h : cut step closes s cs = some (text, rest)) :
    rest.length < cs.length := by
  induction cs generalizing s text with
  | nil => simp [cut] at h
  | cons c cs ih =>
    unfold cut at h
    split at h
    · simp_all
    · split at h
      · next heq =>
        simp only [Option.some.injEq, Prod.mk.injEq] at h
        obtain ⟨-, rfl⟩ := h
        have := ih heq
        simp only [List.length_cons]
        omega
      · simp at h

/-- Ends at the first `>`. -/
def cutPlain : List Char → Option (List Char × List Char) :=
  cut (fun (_ : Unit) _ => ()) (fun _ => true) ()

/-- Ends at the first `>` outside of quotes; the state is the quote that is open. -/
def cutTag : List Char → Option (List Char × List Char) :=
  cut (fun (q : Option Char) c =>
      match q with
      | none => if c == '"' || c == '\'' then some c else none
      | some d => if c == d then none else some d)
    (fun q => q.isNone) none

/-- Ends at the first `>` behind two dashes, the text before being four characters long at least;
the state is that text backwards. -/
def cutComment : List Char → Option (List Char × List Char) :=
  cut (fun (read : List Char) c => c :: read)
    (fun read => 4 ≤ read.length && read.take 2 == ['-', '-']) []

/-- Ends at the first `>` behind two brackets; the state is the text before, backwards. -/
def cutSection : List Char → Option (List Char × List Char) :=
  cut (fun (read : List Char) c => c :: read) (fun read => read.take 2 == [']', ']']) []

/-- Ends at the first `>` that closes no `<` of the text before; the state counts those open. -/
def cutDoctype : List Char → Option (List Char × List Char) :=
  cut (fun (depth : Nat) c => if c = '<' then depth + 1 else if c = '>' then depth - 1 else depth)
    (fun depth => depth == 0) 0

/-! ## Constructs -/

/-- Whether a text starts with another one, letter case aside. -/
def startsWithUncased (front : String) (cs : List Char) : Bool :=
  (front.toList.map Char.toLower).isPrefixOf (cs.map Char.toLower)

/-- What a construct says, put together with the rest of the text behind it. -/
def close (found : Option (List Char × List Char))
    (read : List Char → Option (Event × List (List Char))) :
    Option (Event × List (List Char) × List Char) :=
  match found with
  | none => none
  | some (text, rest) =>
    match read text with
    | none => none
    | some (e, opened) => some (e, opened, rest)

/-- What follows a construct is shorter than the text in which it stands. -/
theorem length_close {σ : Type} {step : σ → Char → σ} {closes : σ → Bool} {s : σ}
    {cs rest : List Char} {read : List Char → Option (Event × List (List Char))} {e : Event}
    {opened : List (List Char)}
    (h : close (cut step closes s cs) read = some (e, opened, rest)) :
    rest.length < cs.length := by
  unfold close at h
  split at h
  · cases h
  · next text rest' hcut =>
    split at h
    · cases h
    · cases h
      exact length_cut hcut

/-- What a comment says. -/
def readComment (opened : List (List Char)) (text : List Char) :
    Option (Event × List (List Char)) :=
  if ['-', '-'].isPrefixOf text then some (.other, opened) else none

/-- What a section says: its text is taken as it is. -/
def readSection (opened : List (List Char)) (text : List Char) :
    Option (Event × List (List Char)) :=
  let content := text.take (text.length - 2)
  if startsWithUncased "[CDATA[" content then some (.literal (content.drop 7), opened) else none

/-- What a document type says; it must not be blank. -/
def readDoctype (opened : List (List Char)) (text : List Char) :
    Option (Event × List (List Char)) :=
  if startsWithUncased "DOCTYPE" text && !(text.drop 7).all isSpace then some (.other, opened)
  else none

/-- What an instruction says. -/
def readInstruction (opened : List (List Char)) (text : List Char) :
    Option (Event × List (List Char)) :=
  if text.getLast? = some '?' && 1 < text.length then some (.other, opened) else none

/-- What an end tag says: it has to name the element opened last. -/
def readEndTag (opened : List (List Char)) (text : List Char) :
    Option (Event × List (List Char)) :=
  let name := if (trimEnd text).isEmpty then text else trimEnd text
  match opened with
  | expected :: outer => if name = expected then some (.finish name, outer) else none
  | [] => none

/-- What a start tag says.  An element that is closed at once leaves nothing open. -/
def readStartTag (opened : List (List Char)) (text : List Char) :
    Option (Event × List (List Char)) :=
  let name := text.takeWhile (! isSpace ·)
  if text.getLast? = some '/' then some (.other, opened) else some (.start name, name :: opened)

/-- The construct behind `<`: its event, the elements open afterwards (innermost first) and the
rest of the text; `none` if it is faulty. -/
def construct (opened : List (List Char)) (cs : List Char) :
    Option (Event × List (List Char) × List Char) :=
  match cs with
  | '!' :: '-' :: after => close (cutComment ('-' :: after)) (readComment opened)
  | '!' :: '[' :: after => close (cutSection ('[' :: after)) (readSection opened)
  | '!' :: c :: after =>
    if c == 'D' || c == 'd' then close (cutDoctype (c :: after)) (readDoctype opened) else none
  | '!' :: [] => none
  | '?' :: after => close (cutPlain after) (readInstruction opened)
  | '/' :: after => close (cutPlain after) (readEndTag opened)
  | _ => close (cutTag cs) (readStartTag opened)

theorem length_construct {opened opened' : List (List Char)} {cs rest : List Char} {e : Event}
    (h : construct opened cs = some (e, opened', rest)) : rest.length < cs.length := by
  unfold construct at h
  split at h
  · exact Nat.lt_succ_of_lt (length_close h)
  · exact Nat.lt_succ_of_lt (length_close h)
  · split at h
    · exact Nat.lt_succ_of_lt (length_close h)
    · cases h
  · cases h
  · exact Nat.lt_succ_of_lt (length_close h)
  · exact Nat.lt_succ_of_lt (length_close h)
  · exact length_close h

/-- The events of a text in which the given elements are open, up to the first fault. -/
def eventsIn (opened : List (List Char)) (cs : List Char) : List Event :=
  match _h : cs.dropWhile isSpace with
  | [] => []
  | c :: rest =>
    if c = '<' then
      match _hc : construct opened rest with
      | some (e, opened', rest') => e :: eventsIn opened' rest'
      | none => []
    else
      .text (c :: trimEnd (rest.takeWhile (· ≠ '<'))) :: eventsIn opened (rest.dropWhile (· ≠ '<'))
termination_by cs.length
decreasing_by
  all_goals
    have hle : (c :: rest).length ≤ cs.length := _h ▸ (List.dropWhile_sublist _).length_le
    simp only [List.length_cons] at hle
  · have := length_construct _hc
    omega
  · have := (List.dropWhile_sublist (l := rest) (fun c => decide (c ≠ '<'))).length_le
    omega

/-- The events of a document, which may start with a byte order mark. -/
def events (cs : List Char) : List Event :=
  eventsIn [] (if cs.head? = some '\ufeff' then cs.tail else cs)

/-! ## Entities -/

/-- The characters that have names. -/
def namedEntities : List (String × Char) :=
  [("lt", '<'), ("gt", '>'), ("amp", '&'), ("apos", '\''), ("quot", '"')]

/-- The character with a number, unless it is zero or no character at all. -/
def charOfNumber? (n : Nat) : Option Char :=
  if n ≠ 0 ∧ n.isValidChar then some (Char.ofNat n) else none

/-- The character that stands between `&` and `;`. -/
def entity? (name : List Char) : Option Char :=
  match name with
  | '#' :: 'x' :: digits =>
    if digits.length > 6 then none else (Text.numeral? 16 digits).bind charOfNumber?
  | '#' :: digits =>
    if digits.length > 7 then none else (Text.numeral? 10 digits).bind charOfNumber?
  | _ => namedEntities.lookup (String.ofList name)

/-- The entity behind `&`: its name and the rest, if `;` comes before the next `&`. -/
def entityName? : List Char → Option (List Char × List Char)
  | [] => none
  | c :: cs =>
    if c = ';' then some ([], cs)
    else if c = '&' then none
    else
      match entityName? cs with
      | some (name, rest) => some (c :: name, rest)
      | none => none

/-- What follows an entity is shorter than the text in which it stands. -/
theorem length_entityName {cs name rest : List Char} (h : entityName? cs = some (name, rest)) :
    rest.length < cs.length := by
  induction cs generalizing name with
  | nil => simp [entityName?] at h
  | cons c cs ih =>
    unfold entityName? at h
    split at h
    · simp_all
    · split at h
      · simp at h
      · split at h
        · next heq =>
          simp only [Option.some.injEq, Prod.mk.injEq] at h
          obtain ⟨-, rfl⟩ := h
          have := ih heq
          simp only [List.length_cons]
          omega
        · simp at h

/-- A text with its entities replaced; `none` if one of them is faulty. -/
def unescape? : List Char → Option (List Char)
  | [] => some []
  | c :: cs =>
    if c = '&' then
      match _h : entityName? cs with
      | some (name, rest) =>
        match entity? name, unescape? rest with
        | some d, some t => some (d :: t)
        | _, _ => none
      | none => none
    else (unescape? cs).map (c :: ·)
termination_by cs => cs.length
decreasing_by
  · have := length_entityName _h
    simp only [List.length_cons]
    omega
  · simp

end QueueClient.Markup
