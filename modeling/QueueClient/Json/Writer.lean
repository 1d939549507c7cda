/-
# Writing JSON

The compact form: no blanks, and of the characters of a text only those escaped that have to be,
which are the quote, the backslash and the control characters.

Values do not keep everything.  Of a number that is not whole, and of a text that is not well
formed, they keep no more than that; what is written for them is some such number, some such text.
-/
import QueueClient.Json.Basic

namespace QueueClient.Json

/-! ## Texts -/

/-- The letter of the escape that is written for a character, if it has one. -/
def escapeLetter? (c : Char) : Option Char :=
  [('"', '"'), ('\\', '\\'), ('\x08', 'b'), ('\x0c', 'f'), ('\n', 'n'), ('\r', 'r'),
    ('\t', 't')].lookup c

/-- A character inside a text. -/
def writeChar (c : Char) : List Char :=
  match escapeLetter? c with
  | some letter => ['\\', letter]
  | none =>
    if c.toNat < 0x20 then
      ['\\', 'u', '0', '0', (c.toNat / 16).digitChar, (c.toNat % 16).digitChar]
    else [c]

/-- A text with its quotes.  Half of a surrogate pair is not well formed. -/
def writeText : Option String → List Char
  | some s => '"' :: s.toList.flatMap writeChar ++ ['"']
  | none => "\"\\ud800\"".toList

/-! ## Values -/

/-- A whole number. -/
def writeInt (n : Int) : List Char :=
  let digits := Nat.toDigits 10 n.natAbs
  if n < 0 then '-' :: digits else digits

mutual

/-- A value. -/
def write : Json → List Char
  | null => "null".toList
  | bool true => "true".toList
  | bool false => "false".toList
  | int n => writeInt n
  | real => "0.5".toList
  | text s => writeText s
  | array items => '[' :: writeItems items ++ [']']
  | object members => '\x7b' :: writeMembers members ++ ['\x7d']

/-- The values of an array. -/
def writeItems : List Json → List Char
  | [] => []
  | [v] => write v
  | v :: vs => write v ++ ',' :: writeItems vs

/-- The members of an object. -/
def writeMembers : List (Option String × Json) → List Char
  | [] => []
  | [(key, v)] => writeText key ++ ':' :: write v
  | (key, v) :: ms => writeText key ++ ':' :: write v ++ ',' :: writeMembers ms

end

/-- The text of a value. -/
def render (v : Json) : String := String.ofList (write v)

end QueueClient.Json
