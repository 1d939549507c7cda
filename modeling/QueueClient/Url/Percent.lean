/-
# Percent encoding

Bytes written as `%` and two hexadecimal digits.  What is encoded depends on the part of a URL;
every part encodes at least the controls and everything beyond ASCII.  Decoding leaves a `%`
alone that no two hexadecimal digits follow.
-/
import QueueClient.Encoding.Utf8
import QueueClient.Text.Numeral

namespace QueueClient.Percent

/-- Controls and everything beyond ASCII. -/
def controls (c : Char) : Bool := c.toNat < 0x20 || 0x7e < c.toNat

/-- What a fragment encodes. -/
def fragment (c : Char) : Bool := controls c || [' ', '"', '<', '>', '\x60'].contains c

/-- What a query encodes. -/
def query (c : Char) : Bool := controls c || [' ', '"', '#', '<', '>'].contains c

/-- What the query of a web scheme encodes. -/
def specialQuery (c : Char) : Bool := query c || c == '\''

/-- What a path encodes. -/
def path (c : Char) : Bool :=
  controls c || [' ', '"', '#', '<', '>', '?', '\x60', '\x7b', '\x7d'].contains c

/-- What a user name or password encodes. -/
def userinfo (c : Char) : Bool :=
  path c || ['/', ':', ';', '=', '@', '[', '\\', ']', '^', '|'].contains c

/-- An upper-case hexadecimal digit. -/
def hexDigit (n : Nat) : Char := if n < 10 then Char.ofNat (48 + n) else Char.ofNat (55 + n)

/-- One byte, encoded. -/
def encodeByte (b : UInt8) : List Char := ['%', hexDigit (b.toNat / 16), hexDigit (b.toNat % 16)]

/-- A text with the characters of a set encoded. -/
def encode (inSet : Char → Bool) (cs : List Char) : List Char :=
  cs.flatMap fun c => if inSet c then (String.utf8EncodeChar c).flatMap encodeByte else [c]

/-- The hexadecimal value of a byte that is a digit. -/
def byteValue? (b : UInt8) : Option Nat := Text.digitValue? (Char.ofNat b.toNat)

/-- What three bytes stand for if they are an escape. -/
def escape? (b h l : UInt8) : Option UInt8 :=
  if b = 0x25 then
    match byteValue? h, byteValue? l with
    | some x, some y => some (UInt8.ofNat (x * 16 + y))
    | _, _ => none
  else none

/-- Bytes with every escape replaced by what it stands for. -/
def decode : List UInt8 → List UInt8
  | b :: h :: l :: rest =>
    match escape? b h l with
    | some x => x :: decode rest
    | none => b :: decode (h :: l :: rest)
  | short => short

end QueueClient.Percent
