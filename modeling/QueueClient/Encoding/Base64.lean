/-
# Base64

The standard alphabet with padding.  Encoding writes three bytes as four symbols.  Decoding is
strict: padding has to be complete, nothing may follow it, and the bits that the last symbol
has to spare must be zero.  Faults are reported with their place: first a foreign last byte
that stands alone, then the first foreign byte outside the last quad, then what is wrong with
the last quad.
-/

namespace QueueClient.Base64

/-- The symbol of a six-bit value. -/
def digit (n : Nat) : Char :=
  if n < 26 then Char.ofNat (65 + n)
  else if n < 52 then Char.ofNat (97 + (n - 26))
  else if n < 62 then Char.ofNat (48 + (n - 52))
  else if n = 62 then '+'
  else '/'

/-- The value of a symbol. -/
def value? (b : UInt8) : Option Nat :=
  let n := b.toNat
  if 65 ≤ n && n ≤ 90 then some (n - 65)
  else if 97 ≤ n && n ≤ 122 then some (n - 97 + 26)
  else if 48 ≤ n && n ≤ 57 then some (n - 48 + 52)
  else if n = 43 then some 62
  else if n = 47 then some 63
  else none

/-- The padding byte. -/
def pad : UInt8 := 61

/-- Bytes as symbols. -/
def encode : List UInt8 → List Char
  | [] => []
  | [a] => [digit (a.toNat / 4), digit (a.toNat % 4 * 16), '=', '=']
  | [a, b] =>
    [digit (a.toNat / 4), digit (a.toNat % 4 * 16 + b.toNat / 16), digit (b.toNat % 16 * 4), '=']
  | a :: b :: c :: rest =>
    digit (a.toNat / 4) :: digit (a.toNat % 4 * 16 + b.toNat / 16) ::
      digit (b.toNat % 16 * 4 + c.toNat / 64) :: digit (c.toNat % 64) :: encode rest

/-- What makes a text no Base64. -/
inductive Fault where
  /-- A byte that cannot stand at this place. -/
  | symbol (offset : Nat) (byte : UInt8)
  /-- The last quad holds fewer than two symbols. -/
  | length (n : Nat)
  /-- The last quad is not filled up. -/
  | padding
  /-- The last symbol has bits that belong to no byte. -/
  | lastSymbol (offset : Nat) (byte : UInt8)
deriving DecidableEq

/-- The wording of a fault. -/
def Fault.message : Fault → String
  | symbol offset byte =>
    "Invalid symbol " ++ toString byte.toNat ++ ", offset " ++ toString offset ++ "."
  | length n => "Invalid input length: " ++ toString n
  | padding => "Invalid padding"
  | lastSymbol offset byte =>
    "Invalid last symbol " ++ toString byte.toNat ++ ", offset " ++ toString offset ++ "."

/-- Six-bit values as bytes, four values to three bytes; what is left of the last values is
dropped. -/
def pack : List Nat → List UInt8
  | a :: b :: c :: d :: rest =>
    UInt8.ofNat (a * 4 + b / 16) :: UInt8.ofNat (b % 16 * 16 + c / 4) ::
      UInt8.ofNat (c % 4 * 64 + d) :: pack rest
  | [a, b, c] => [UInt8.ofNat (a * 4 + b / 16), UInt8.ofNat (b % 16 * 16 + c / 4)]
  | [a, b] => [UInt8.ofNat (a * 4 + b / 16)]
  | _ => []

/-- The values of bytes that all have to be symbols, the first standing at `offset`. -/
def values (offset : Nat) : List UInt8 → Except Fault (List Nat)
  | [] => .ok []
  | b :: rest =>
    match value? b with
    | some v => (values (offset + 1) rest).map (v :: ·)
    | none => .error (.symbol offset b)

/-- The values in the last quad, which starts at `start`; `place` bytes of it are read already and
the first padding byte, if any, stood at `firstPad`. -/
def lastValues (start place : Nat) (firstPad : Option Nat) :
    List UInt8 → Except Fault (List Nat)
  | [] => .ok []
  | b :: rest =>
    if b = pad then
      if place < 2 then .error (.symbol (start + place) b)
      else lastValues start (place + 1) (firstPad <|> some place) rest
    else
      match firstPad, value? b with
      | some p, _ => .error (.symbol (start + p) pad)
      | none, none => .error (.symbol (start + place) b)
      | none, some v => (lastValues start (place + 1) none rest).map (v :: ·)

/-- The bits that the last symbol of a quad has to spare. -/
def spareBits : List Nat → Nat
  | [_, b] => b % 16
  | [_, _, c] => c % 4
  | _ => 0

/-- Where the last quad starts in an input of `n` bytes. -/
def lastQuad (n : Nat) : Nat := if n % 4 = 0 then n - 4 else n - n % 4

/-- The bytes that an input stands for. -/
def decode (input : List UInt8) : Except Fault (List UInt8) := do
  let n := input.length
  match input.getLast? with
  | some b =>
    if n % 4 = 1 && b != pad && (value? b).isNone then throw (.symbol (n - 1) b)
  | none => pure ()
  let start := lastQuad n
  let front ← values 0 (input.take start)
  let quad := input.drop start
  let back ← lastValues start 0 none quad
  if !quad.isEmpty && back.length < 2 then throw (.length (start + back.length))
  if quad.length % 4 ≠ 0 then throw .padding
  if spareBits back ≠ 0 then
    throw (.lastSymbol (start + back.length - 1) (quad[back.length - 1]?.getD 0))
  return pack (front ++ back)

end QueueClient.Base64
