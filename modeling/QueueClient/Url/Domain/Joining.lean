/-
# Joiners in domain names

The two invisible joiners are only good for what they are needed for: behind a sign that
drops a vowel, and, for the one that keeps letters apart, between letters that would connect.
-/
import QueueClient.Text.Canonical
import QueueClient.Url.Domain.JoiningTable

namespace QueueClient.Domain

open Text

/-- The character that keeps letters apart. -/
def nonJoiner : Char := '\u200c'

/-- The character that connects letters. -/
def joiner : Char := '\u200d'

/-- The class of the signs that drop a vowel. -/
def vowelDropClass : Nat := 9

/-- Whether the nearest character that letters do not connect across is in one of the ranges. -/
def meets (ranges : List (Nat × Nat)) (cs : List Char) : Bool :=
  match cs.dropWhile (inRanges joinTransparentRanges) with
  | c :: _ => inRanges ranges c
  | [] => false

/-- Whether every joiner in a label is needed; `before` are the characters in front, nearest
first. -/
def joinersNeeded (before : List Char) : List Char → Bool
  | [] => true
  | c :: rest =>
    (if c = nonJoiner ∨ c = joiner then
      (before.head?.any fun b => markClass b == vowelDropClass) ||
        (c == nonJoiner && meets joinsNextRanges before && meets joinsPreviousRanges rest)
      else true) && joinersNeeded (c :: before) rest

end QueueClient.Domain
