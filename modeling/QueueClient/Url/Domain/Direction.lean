/-
# Writing direction in domain names

A domain name with a letter that runs from right to left must not be ambiguous to look at.
Each of its labels starts with a letter and keeps to the direction of that letter: it holds
no letter of the other one, and ends with a letter or digit, marks aside.  A label from right
to left does not mix the two kinds of digits.
-/
import QueueClient.Url.Domain.DirectionTable

namespace QueueClient.Domain

open Text

/-- The directional classes. -/
inductive Direction where
  | leftToRight
  | rightToLeft
  /-- Digits that belong to letters from right to left. -/
  | arabicNumber
  /-- Digits that belong to either. -/
  | europeanNumber
  /-- Marks. -/
  | mark
  | neutral
deriving DecidableEq

namespace Direction

/-- The class of a character. -/
def of (c : Char) : Direction :=
  if inRanges rightToLeftRanges c then rightToLeft
  else if inRanges arabicNumberRanges c then arabicNumber
  else if inRanges europeanNumberRanges c then europeanNumber
  else if inRanges directionMarkRanges c then mark
  else if inRanges neutralRanges c then neutral
  else leftToRight

end Direction

/-- Whether a character makes a domain name one that is read from right to left somewhere. -/
def turns (c : Char) : Bool :=
  match Direction.of c with
  | .rightToLeft | .arabicNumber => true
  | _ => false

/-- Whether a label keeps to its direction. -/
def keepsDirection (label : List Char) : Bool :=
  let classes := label.map Direction.of
  let last? := (classes.tail.filter (· ≠ .mark)).getLast?
  match classes with
  | [] => true
  | .leftToRight :: rest =>
    rest.all (fun d => d != .rightToLeft && d != .arabicNumber) &&
      last?.all fun d => d == .leftToRight || d == .europeanNumber
  | .rightToLeft :: rest =>
    rest.all (· != .leftToRight) &&
      last?.all (fun d => d == .rightToLeft || d == .arabicNumber || d == .europeanNumber) &&
      !(rest.contains .arabicNumber && rest.contains .europeanNumber)
  | _ => false

end QueueClient.Domain
