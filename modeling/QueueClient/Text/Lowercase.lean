/-
# Lower case

The full lower-casing of a text: each character is replaced by its small letter (by two
characters in the one case of the dotted capital I), and a capital sigma at the end of a word
becomes the final form of the small sigma.  A sigma ends a word when a cased letter stands
before it and none behind it, other characters that belong inside words being passed over.
-/
import QueueClient.Text.CaseTable
import QueueClient.Text.CodePoint

namespace QueueClient.Text

/-- Whether a character is passed over in the search for a neighbouring letter. -/
def isCaseIgnorable (c : Char) : Bool := inRanges caseIgnorableRanges c

/-- Whether a character is a letter with a case. -/
def isCased (c : Char) : Bool := inRanges casedRanges c

/-- The small form of a character by itself. -/
def lowerChar (c : Char) : List Char :=
  if c.toNat < 128 then [c.toLower]
  else if c.toNat = 0x130 then ['i', Char.ofNat 0x307]
  else
    match lowerRuns.find? fun r =>
        r.1 ≤ c.toNat && c.toNat ≤ r.2.1 && (c.toNat - r.1) % r.2.2.1 == 0 with
    | some r => [Char.ofNat ((c.toNat : Int) + r.2.2.2).toNat]
    | none => [c]

/-- Whether the nearest character that is not passed over is a cased letter. -/
def meetsCased (l : List Char) : Bool :=
  match l.dropWhile isCaseIgnorable with
  | c :: _ => isCased c
  | [] => false

/-- The lower case of a text that follows the characters `before` (nearest first). -/
def lowerAfter (before : List Char) : List Char → List Char
  | [] => []
  | c :: rest =>
    (if c = 'Σ' then [if meetsCased before && !meetsCased rest then 'ς' else 'σ']
      else lowerChar c) ++ lowerAfter (c :: before) rest

/-- A text in lower case. -/
def toLowercase (s : String) : String := String.ofList (lowerAfter [] s.toList)

/-- A text with its ASCII capitals made small. -/
def asciiLowercase (s : String) : String := String.ofList (s.toList.map Char.toLower)

end QueueClient.Text
