/-
# Reading JSON

The strict grammar: no comments, no trailing commas, no leading zeros, no control characters
inside texts.  Each reading function returns the rest of the input with the evidence that it is
shorter, which is what makes reading end.
-/
import QueueClient.Json.Basic
import QueueClient.Text.Numeral

namespace QueueClient.Json

/-- What is left of an input after something was read from its front. -/
abbrev Rest (cs : List Char) := { r : List Char // r.length < cs.length }

/-- A rest seen from further in front. -/
def Rest.weaken {cs ds : List Char} (h : ds.length ≤ cs.length) (r : Rest ds) : Rest cs :=
  ⟨r.1, Nat.lt_of_lt_of_le r.2 h⟩

/-- The blanks of JSON. -/
def isSpace (c : Char) : Bool := c == ' ' || c == '\n' || c == '\t' || c == '\r'

/-- The input without blanks in front. -/
def skip (cs : List Char) : List Char := cs.dropWhile isSpace

theorem length_skip (cs : List Char) : (skip cs).length ≤ cs.length :=
  (List.dropWhile_sublist _).length_le

/-- What follows the first character behind blanks is shorter. -/
theorem length_lt_of_skip {cs rest : List Char} {c : Char} (h : skip cs = c :: rest) :
    rest.length < cs.length := by
  have hlen := length_skip cs
  rw [h, List.length_cons] at hlen
  exact hlen

/-! ## Texts -/

/-- The characters with a short escape. -/
def shortEscapes : List (Char × Char) :=
  [('"', '"'), ('\\', '\\'), ('/', '/'), ('b', '\x08'), ('f', '\x0c'), ('n', '\n'), ('r', '\r'),
    ('t', '\t')]

/-- A part of a text: a character, or the number of an escape. -/
inductive TextPart where
  | char (c : Char)
  | unit (n : Nat)

/-- The text that parts make up, if every surrogate has its partner. -/
def assemble : List TextPart → Option (List Char)
  | [] => some []
  | .char c :: rest => (assemble rest).map (c :: ·)
  | .unit n :: .unit m :: rest =>
    if 0xd800 ≤ n ∧ n ≤ 0xdbff then
      if 0xdc00 ≤ m ∧ m ≤ 0xdfff then
        (assemble rest).map (Char.ofNat (0x10000 + (n - 0xd800) * 0x400 + (m - 0xdc00)) :: ·)
      else none
    else if 0xdc00 ≤ n ∧ n ≤ 0xdfff then none
    else (assemble (.unit m :: rest)).map (Char.ofNat n :: ·)
  | .unit n :: rest =>
    if 0xd800 ≤ n ∧ n ≤ 0xdfff then none else (assemble rest).map (Char.ofNat n :: ·)

/-- The parts of a text up to its closing quote, which is passed too. -/
def textParts : (cs : List Char) → Option (List TextPart × Rest cs)
  | [] => none
  | '"' :: rest => some ([], ⟨rest, by simp⟩)
  | '\\' :: 'u' :: a :: b :: c :: d :: rest =>
    match Text.numeral? 16 [a, b, c, d] with
    | some n =>
      (textParts rest).map fun (ps, r) => (.unit n :: ps, r.weaken (by simp; omega))
    | none => none
  | '\\' :: e :: rest =>
    match shortEscapes.lookup e with
    | some c => (textParts rest).map fun (ps, r) => (.char c :: ps, r.weaken (by simp; omega))
    | none => none
  | c :: rest =>
    if c.toNat < 0x20 ∨ c = '\\' then none
    else (textParts rest).map fun (ps, r) => (.char c :: ps, r.weaken (by simp))

/-- The text behind an opening quote. -/
def readText (cs : List Char) : Option (Option String × Rest cs) :=
  (textParts cs).map fun (ps, r) => ((assemble ps).map String.ofList, r)

/-! ## Numbers -/

/-- Whether digits can be the whole part of a number: there are some, and no zero in front. -/
def isWhole (digits : List Char) : Bool :=
  match digits with
  | [] => false
  | ['0'] => true
  | c :: _ => c != '0'

/-- What follows a fraction, if there is one; `none` if its digits are missing. -/
def skipFraction (cs : List Char) : Option (List Char) :=
  match cs with
  | '.' :: rest => if rest.head?.any Char.isDigit then some (rest.dropWhile Char.isDigit) else none
  | _ => some cs

/-- What follows an exponent, if there is one; `none` if its digits are missing. -/
def skipExponent (cs : List Char) : Option (List Char) :=
  match cs with
  | c :: rest =>
    if c == 'e' || c == 'E' then
      let rest := match rest with
        | s :: r => if s == '+' || s == '-' then r else rest
        | [] => rest
      if rest.head?.any Char.isDigit then some (rest.dropWhile Char.isDigit) else none
    else some cs
  | [] => some cs

/-- The number at the front of an input and what follows it.  Minus zero is not whole, nor is
anything with a fraction or an exponent. -/
def readNumber (cs : List Char) : Option (Json × List Char) := do
  let negative := cs.head? == some '-'
  let body := if negative then cs.tail else cs
  let digits := body.takeWhile Char.isDigit
  let after := body.dropWhile Char.isDigit
  if !isWhole digits then none
  let rest ← (skipFraction after).bind skipExponent
  if rest.length = after.length ∧ ¬ (negative = true ∧ Text.decimal digits = 0) then
    some (.int (if negative then -(Text.decimal digits : Int) else Text.decimal digits), rest)
  else some (.real, rest)

/-! ## Values -/

/-- The words that stand for values. -/
def words : List (List Char × Json) :=
  [("null".toList, .null), ("true".toList, .bool true), ("false".toList, .bool false)]

/-- The word or number at the front of an input. -/
def readScalar (cs : List Char) : Option (Json × Rest cs) :=
  match words.find? fun w => w.1.isPrefixOf cs with
  | some (w, v) =>
    let rest := cs.drop w.length
    if h : rest.length < cs.length then some (v, ⟨rest, h⟩) else none
  | none =>
    match readNumber cs with
    | some (v, rest) => if h : rest.length < cs.length then some (v, ⟨rest, h⟩) else none
    | none => none

mutual

/-- The value at the front of an input, behind blanks. -/
def readValue (cs : List Char) : Option (Json × Rest cs) :=
  match _h : skip cs with
  | [] => none
  | c :: rest =>
    have hlt : rest.length < cs.length := length_lt_of_skip _h
    if c = '"' then (readText rest).map fun (s, r) => (.text s, r.weaken (Nat.le_of_lt hlt))
    else if c = '[' then
      match _hr : skip rest with
      | ']' :: after => some (.array [], ⟨after, Nat.lt_trans (length_lt_of_skip _hr) hlt⟩)
      | _ => (readItems rest).map fun (vs, r) => (.array vs, r.weaken (Nat.le_of_lt hlt))
    else if c = '\x7b' then
      match _hr : skip rest with
      | '\x7d' :: after => some (.object [], ⟨after, Nat.lt_trans (length_lt_of_skip _hr) hlt⟩)
      | _ => (readMembers rest).map fun (ms, r) => (.object ms, r.weaken (Nat.le_of_lt hlt))
    else (readScalar (c :: rest)).map fun (v, r) =>
      (v, r.weaken (show (c :: rest).length ≤ cs.length from hlt))
termination_by (cs.length, 0)

/-- The values of an array up to its end. -/
def readItems (cs : List Char) : Option (List Json × Rest cs) :=
  match readValue cs with
  | none => none
  | some (v, ⟨r, hr⟩) =>
    match _h : skip r with
    | ',' :: rest =>
      have hlt : rest.length < cs.length := Nat.lt_trans (length_lt_of_skip _h) hr
      (readItems rest).map fun (vs, r') => (v :: vs, r'.weaken (Nat.le_of_lt hlt))
    | ']' :: rest => some ([v], ⟨rest, Nat.lt_trans (length_lt_of_skip _h) hr⟩)
    | _ => none
termination_by (cs.length, 1)

/-- The members of an object up to its end. -/
def readMembers (cs : List Char) : Option (List (Option String × Json) × Rest cs) :=
  match _h : skip cs with
  | '"' :: rest =>
    have hlt : rest.length < cs.length := length_lt_of_skip _h
    match readText rest with
    | none => none
    | some (key, ⟨r, hr⟩) =>
      match _hc : skip r with
      | ':' :: after =>
        have hafter : after.length < cs.length :=
          Nat.lt_trans (length_lt_of_skip _hc) (Nat.lt_trans hr hlt)
        match readValue after with
        | none => none
        | some (v, ⟨r', hr'⟩) =>
          match _hd : skip r' with
          | ',' :: rest' =>
            have hlt' : rest'.length < cs.length :=
              Nat.lt_trans (length_lt_of_skip _hd) (Nat.lt_trans hr' hafter)
            (readMembers rest').map fun (ms, r'') =>
              ((key, v) :: ms, r''.weaken (Nat.le_of_lt hlt'))
          | '\x7d' :: rest' => some ([(key, v)],
              ⟨rest', Nat.lt_trans (length_lt_of_skip _hd) (Nat.lt_trans hr' hafter)⟩)
          | _ => none
      | _ => none
  | _ => none
termination_by (cs.length, 0)

end

/-- The value that a whole text is. -/
def read? (s : String) : Option Json :=
  match readValue s.toList with
  | some (v, ⟨rest, _⟩) => if (skip rest).isEmpty then some v else none
  | none => none

end QueueClient.Json
