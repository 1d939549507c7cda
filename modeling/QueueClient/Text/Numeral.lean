/-
# Numerals

Digits and the numbers that they stand for, in bases up to sixteen.
-/

namespace QueueClient.Text

/-- The value of a digit; the hexadecimal ones may be capital or small letters. -/
def digitValue? (c : Char) : Option Nat :=
  let n := c.toNat
  if 48 ≤ n && n ≤ 57 then some (n - 48)
  else if 65 ≤ n && n ≤ 70 then some (n - 55)
  else if 97 ≤ n && n ≤ 102 then some (n - 87)
  else none

/-- Whether a character is a hexadecimal digit. -/
def isHexDigit (c : Char) : Bool := (digitValue? c).isSome

/-- The number that digits of a base stand for, highest first; no digits stand for zero. -/
def numeral? (base : Nat) (digits : List Char) : Option Nat :=
  digits.foldlM (fun n c => do
    let d ← digitValue? c
    if d < base then some (n * base + d) else none) 0

/-- The number that decimal digits stand for. -/
def decimal (digits : List Char) : Nat := (numeral? 10 digits).getD 0

theorem numeral?_nil (base : Nat) : numeral? base [] = some 0 := rfl

end QueueClient.Text
