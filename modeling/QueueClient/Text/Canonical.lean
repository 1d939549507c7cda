/-
# Canonical composition

One form for texts that look the same: every character is decomposed as far as possible,
marks behind a letter are put in order of their class, and then letters and marks are composed
again where that is possible.  Syllables of Hangul are decomposed and composed by arithmetic,
everything else by table.
-/
import QueueClient.Text.CanonicalTable

namespace QueueClient.Text

/-- The class of a mark; 0 for everything that is none. -/
def markClass (c : Char) : Nat :=
  if c.toNat < 0x300 then 0
  else ((markClasses.find? fun m => inRanges m.2 c).map (·.1)).getD 0

/-! ## Hangul -/

namespace Hangul

/-- The first syllable. -/
def syllableBase : Nat := 0xac00

/-- The first leading consonant. -/
def leadBase : Nat := 0x1100

/-- The first vowel. -/
def vowelBase : Nat := 0x1161

/-- The place before the first trailing consonant. -/
def trailBase : Nat := 0x11a7

/-- How many leading consonants there are. -/
def leadCount : Nat := 19

/-- How many vowels there are. -/
def vowelCount : Nat := 21

/-- How many trailing consonants there are, none being one of them. -/
def trailCount : Nat := 28

/-- The letters of a syllable. -/
def letters? (c : Char) : Option (List Char) :=
  let s := c.toNat - syllableBase
  if c.toNat < syllableBase || leadCount * vowelCount * trailCount ≤ s then none
  else
    let lead := Char.ofNat (leadBase + s / (vowelCount * trailCount))
    let vowel := Char.ofNat (vowelBase + s / trailCount % vowelCount)
    if s % trailCount = 0 then some [lead, vowel]
    else some [lead, vowel, Char.ofNat (trailBase + s % trailCount)]

/-- The syllable of a leading consonant and a vowel, or of a syllable without trailing consonant
and such a consonant. -/
def syllable? (a b : Char) : Option Char :=
  let l := a.toNat - leadBase
  let v := b.toNat - vowelBase
  let s := a.toNat - syllableBase
  let t := b.toNat - trailBase
  if leadBase ≤ a.toNat && l < leadCount && vowelBase ≤ b.toNat && v < vowelCount then
    some (Char.ofNat (syllableBase + (l * vowelCount + v) * trailCount))
  else if syllableBase ≤ a.toNat && s < leadCount * vowelCount * trailCount &&
      s % trailCount == 0 && trailBase < b.toNat && t < trailCount then
    some (Char.ofNat (a.toNat + t))
  else none

end Hangul

/-! ## Decomposing -/

/-- What a character is decomposed into. -/
def decomposed (c : Char) : List Char :=
  if c.toNat < 0xc0 then [c]
  else
    (Hangul.letters? c <|> replacement? composites c <|> replacement? decomposables c).getD [c]

/-- A character put in front of ordered text, behind the marks of smaller class. -/
def insertMark (c : Char) : List Char → List Char
  | [] => [c]
  | d :: rest =>
    if 0 < markClass d && markClass d < markClass c then d :: insertMark c rest else c :: d :: rest

/-- A text with the marks behind each letter in order; marks of one class keep theirs. -/
def orderMarks (cs : List Char) : List Char := cs.foldr insertMark []

/-! ## Composing -/

/-- The character that a letter and what follows it make up. -/
def composite? (a b : Char) : Option Char :=
  if b.toNat < 0x300 then none
  else
    let parts := decomposed a ++ [b]
    Hangul.syllable? a b <|>
      ((composites.find? fun r => r.apply (Char.ofNat r.first) == parts).map fun r =>
        Char.ofNat r.first)

/-- Whether something stands between a letter and a character that keeps them apart; `marks` are
the marks between them, nearest to the character first. -/
def isBlocked (marks : List Char) (c : Char) : Bool :=
  match marks with
  | [] => false
  | m :: _ => markClass c ≤ markClass m

/-- The composed text of a letter, marks that do not go with it, latest first, and what follows. -/
def composeFrom (letter : Char) (marks : List Char) : List Char → List Char
  | [] => letter :: marks.reverse
  | c :: rest =>
    match if isBlocked marks c then none else composite? letter c with
    | some whole => composeFrom whole marks rest
    | none =>
      if markClass c = 0 then letter :: marks.reverse ++ composeFrom c [] rest
      else composeFrom letter (c :: marks) rest

/-- The composed text of decomposed text in order. -/
def composeOrdered : List Char → List Char
  | [] => []
  | c :: rest => if markClass c = 0 then composeFrom c [] rest else c :: composeOrdered rest

/-- The composed form of a text. -/
def composed (cs : List Char) : List Char :=
  composeOrdered (orderMarks (cs.flatMap decomposed))

end QueueClient.Text
