/-
# Sets and rules of code points

How tables of Unicode properties are written down.  A set is a list of ranges.  A rule
replaces each character of a range, or every second one, by a text: the text that it names
for the first of them, with its first character shifted as far as the replaced one is from
the first.

Long tables are kept as lines of words: `41` and `41-5a` are ranges, `41-5a:61` and
`100-12e/2:101` are rules that shift, and `fb01:66+69` is a rule for one character.  All
numbers are hexadecimal.
-/
import QueueClient.Text.Numeral

namespace QueueClient.Text

/-! ## Sets -/

/-- Whether one of the ranges holds the character. -/
def inRanges (ranges : List (Nat × Nat)) (c : Char) : Bool :=
  ranges.any fun r => r.1 ≤ c.toNat && c.toNat ≤ r.2

/-- A hexadecimal number in a table. -/
def tableNumber (word : List Char) : Nat := (numeral? 16 word).getD 0

/-- The words of a table. -/
def tableWords (lines : List String) : List (List Char) :=
  lines.flatMap fun line => line.toList.splitOn ' '

/-- The range that a word stands for. -/
def tableRange (word : List Char) : Nat × Nat :=
  match word.splitOn '-' with
  | [first, last] => (tableNumber first, tableNumber last)
  | _ => (tableNumber word, tableNumber word)

/-- The ranges in a table. -/
def tableRanges (lines : List String) : List (Nat × Nat) := (tableWords lines).map tableRange

/-! ## Rules -/

/-- What replaces the characters of a range. -/
structure CodeRule where
  /-- The first character replaced. -/
  first : Nat
  /-- The last one. -/
  last : Nat
  /-- How far it is from one to the next. -/
  step : Nat
  /-- What replaces the first. -/
  image : List Nat
deriving DecidableEq, Inhabited

namespace CodeRule

/-- Whether a rule is for a character. -/
def covers (r : CodeRule) (c : Char) : Bool :=
  r.first ≤ c.toNat && c.toNat ≤ r.last && (c.toNat - r.first) % r.step == 0

/-- What replaces a character that the rule is for. -/
def apply (r : CodeRule) (c : Char) : List Char :=
  match r.image with
  | [] => []
  | n :: rest => Char.ofNat (n + (c.toNat - r.first)) :: rest.map Char.ofNat

/-- The rule that a word stands for. -/
def ofWord (word : List Char) : CodeRule :=
  let (sources, image) := word.span (· ≠ ':')
  let (range, step) := sources.span (· ≠ '/')
  { first := (tableRange range).1, last := (tableRange range).2
    step := if step.isEmpty then 1 else tableNumber (step.drop 1)
    image := ((image.drop 1).splitOn '+').map tableNumber }

end CodeRule

/-- The rules in a table. -/
def tableRules (lines : List String) : List CodeRule := (tableWords lines).map CodeRule.ofWord

/-- What replaces a character under the first rule for it. -/
def replacement? (rules : List CodeRule) (c : Char) : Option (List Char) :=
  (rules.find? (·.covers c)).map (·.apply c)

end QueueClient.Text
