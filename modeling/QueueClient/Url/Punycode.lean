/-
# Punycode

Text of any script as letters, digits and hyphens.  The ASCII characters come first, then a
hyphen, then for each other character, in order of code point, the number of steps from the
one before: a step goes from one place in the text to the next, and behind the last place
on to the next code point.  The numbers are written in base 36 with thresholds that adapt to
their size: a digit below its threshold is the last one.
-/

namespace QueueClient.Punycode

/-- The base of the digits. -/
def base : Nat := 36

/-- The smallest code point that is not ASCII. -/
def firstCode : Nat := 128

/-- The bias before anything was written. -/
def firstBias : Nat := 72

/-- The threshold for the digit of weight position `k` (36 for the first digit, and so on). -/
def threshold (k bias : Nat) : Nat := if k ≤ bias then 1 else if bias + 26 ≤ k then 26 else k - bias

theorem threshold_pos (k bias : Nat) : 1 ≤ threshold k bias := by
  unfold threshold
  split
  · omega
  · split <;> omega

/-- How often a number is divided until it is small, times the base, and what is left. -/
def shrink (delta k : Nat) : Nat × Nat :=
  if 455 < delta then shrink (delta / 35) (k + base) else (delta, k)
termination_by delta
decreasing_by omega

/-- The bias after a number of steps for a text with `length` characters now. -/
def adapt (delta length : Nat) (isFirst : Bool) : Nat :=
  let delta := if isFirst then delta / 700 else delta / 2
  let (delta, k) := shrink (delta + delta / length) 0
  k + 36 * delta / (delta + 38)

/-! ## Reading -/

/-- The value of a digit: letters of either case, then the decimal digits. -/
def digitValue? (c : Char) : Option Nat :=
  let n := c.toNat
  if 97 ≤ n && n ≤ 122 then some (n - 97)
  else if 65 ≤ n && n ≤ 90 then some (n - 65)
  else if 48 ≤ n && n ≤ 57 then some (n - 22)
  else none

/-- What was read so far. -/
structure Reading where
  /-- The text. -/
  out : List Char
  /-- The code point of the last insertion. -/
  code : Nat
  /-- The place behind the last insertion, plus what was read of the current number. -/
  place : Nat
  /-- The place before the current number. -/
  oldPlace : Nat
  /-- The bias. -/
  bias : Nat
  /-- What the next digit counts. -/
  weight : Nat
  /-- The position of the next digit. -/
  k : Nat

namespace Reading

/-- Nothing read but the ASCII part. -/
def start (out : List Char) : Reading := ⟨out, firstCode, 0, 0, firstBias, 1, base⟩

/-- A number that has to fit into 32 bits. -/
def word? (n : Nat) : Option Nat := if n < UInt32.size then some n else none

/-- The insertion of a character, once the number for it is complete. -/
def insert? (r : Reading) : Option Reading := do
  let length := r.out.length + 1
  let code ← word? (r.code + r.place / length)
  let place := r.place % length
  if !code.isValidChar then none
  else
    some { out := r.out.take place ++ Char.ofNat code :: r.out.drop place
           code, place := place + 1, oldPlace := place + 1
           bias := adapt (r.place - r.oldPlace) length (r.oldPlace == 0), weight := 1, k := base }

/-- One more digit. -/
def step (r : Reading) (c : Char) : Option Reading := do
  let digit ← digitValue? c
  let added ← word? (digit * r.weight)
  let r := { r with place := ← word? (r.place + added) }
  let t := threshold r.k r.bias
  if digit < t then r.insert?
  else some { r with weight := ← word? (r.weight * (base - t)), k := r.k + base }

/-- The text, if no number is incomplete. -/
def finish? (r : Reading) : Option (List Char) := if r.k = base then some r.out else none

end Reading

/-- The ASCII part in front of the last hyphen and what follows it; without a hyphen, or with
nothing in front of it, everything follows. -/
def splitBasic (cs : List Char) : List Char × List Char :=
  match cs.reverse.span (· ≠ '-') with
  | (back, _ :: front@(_ :: _)) => (front.reverse, back.reverse)
  | _ => ([], cs)

/-- The text that is written this way. -/
def decode? (cs : List Char) : Option (List Char) :=
  let (basic, digits) := splitBasic cs
  (digits.foldlM Reading.step (.start basic)).bind Reading.finish?

/-! ## Writing -/

/-- A digit. -/
def digit (n : Nat) : Char := if n < 26 then Char.ofNat (97 + n) else Char.ofNat (22 + n)

/-- The digits of a number, from position `k` on. -/
def digits (bias k n : Nat) : List Char :=
  let t := threshold k bias
  if n < t then [digit n]
  else digit (t + (n - t) % (base - t)) :: digits bias (k + base) ((n - t) / (base - t))
termination_by n
decreasing_by
  have := threshold_pos k bias
  exact Nat.lt_of_le_of_lt (Nat.div_le_self _ _) (by omega)

/-- What was written so far. -/
structure Writing where
  /-- The digits. -/
  out : List Char
  /-- The steps since the last insertion. -/
  delta : Nat
  /-- The bias. -/
  bias : Nat
  /-- How many characters are written. -/
  written : Nat

/-- Passes a place of the text during the round for a code point. -/
def Writing.pass (basics code : Nat) (w : Writing) (c : Char) : Writing :=
  if c.toNat < code then { w with delta := w.delta + 1 }
  else if c.toNat = code then
    { out := w.out ++ digits w.bias base w.delta, delta := 0
      bias := adapt w.delta (w.written + 1) (w.written == basics), written := w.written + 1 }
  else w

/-- The rounds for code points in order; `next` is the code point that follows the last one. -/
def rounds (cs : List Char) (basics : Nat) : (next : Nat) → Writing → List Nat → Writing
  | _, w, [] => w
  | next, w, code :: rest =>
    let w := { w with delta := w.delta + (code - next) * (w.written + 1) }
    let w := cs.foldl (Writing.pass basics code) w
    rounds cs basics (code + 1) { w with delta := w.delta + 1 } rest

/-- A text in written form. -/
def encode (cs : List Char) : List Char :=
  let basic := cs.filter fun c => c.toNat < firstCode
  let others := (cs.map Char.toNat).filter fun n => firstCode ≤ n
  let codes := (others.mergeSort fun a b => a ≤ b).eraseDups
  let w := rounds cs basic.length firstCode ⟨[], 0, firstBias, basic.length⟩ codes
  (if basic.isEmpty then [] else basic ++ ['-']) ++ w.out

end QueueClient.Punycode
