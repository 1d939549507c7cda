/-
# Double precision numbers

The finite doubles are the whole multiples of 2⁻¹⁰⁷⁴ (here called quanta) whose binary
digits span at most 53 places and which stay below 2¹⁰²⁴.  A finite number is therefore kept
as its count of quanta, an integer, and every operation is the exact operation followed by
one rounding to the nearest double, ties to the even one.  Zero has one sign here: no
operation of this file tells the two zeros apart.
-/
import QueueClient.Duration

namespace QueueClient

/-- A double precision number. -/
inductive Binary64 where
  /-- Not a number. -/
  | nan
  /-- Positive infinity. -/
  | posInf
  /-- Negative infinity. -/
  | negInf
  /-- So many times 2⁻¹⁰⁷⁴. -/
  | finite (quanta : Int)
deriving DecidableEq, Inhabited

namespace Binary64

/-- How many quanta make one. -/
def one : Nat := Nat.pow 2 1074

/-- The first power of two, in quanta, that is out of range. -/
def overflow : Nat := Nat.pow 2 2098

/-- The whole number nearest to `num / den`; a tie goes to the even neighbour. -/
def nearestEven (num den : Nat) : Nat :=
  let q := num / den
  let r := num % den
  if 2 * r < den then q
  else if den < 2 * r then q + 1
  else q + q % 2

/-- The distance, in quanta, between neighbouring doubles from `q` quanta upwards: one quantum as
long as 53 binary digits hold the number, then twice as much from each power of two on. -/
def spacing (q : Nat) : Nat := Nat.pow 2 (q.log2 - 52)

/-- The multiple of the local spacing nearest to `num / den` quanta. -/
def roundQuanta (num den : Nat) : Nat :=
  let s := spacing (num / den)
  nearestEven num (den * s) * s

/-- The double nearest to `num / den` quanta, or to its negative. -/
def ofQuotient (negative : Bool) (num den : Nat) : Binary64 :=
  let q := roundQuanta num den
  if q < overflow then finite (if negative then -(q : Int) else q)
  else if negative then negInf else posInf

/-- The double nearest to a natural number. -/
def ofNat (n : Nat) : Binary64 := ofQuotient false (n * one) 1

/-- The double nearest to `± digits · 10 ^ exponent`. -/
def ofDecimal (negative : Bool) (digits : Nat) (exponent : Int) : Binary64 :=
  ofQuotient negative (digits * Nat.pow 10 exponent.toNat * one) (Nat.pow 10 (-exponent).toNat)

/-- Sums. -/
def add : Binary64 → Binary64 → Binary64
  | finite a, finite b => ofQuotient (a + b < 0) (a + b).natAbs 1
  | nan, _ => nan
  | _, nan => nan
  | posInf, negInf => nan
  | negInf, posInf => nan
  | posInf, _ => posInf
  | _, posInf => posInf
  | negInf, _ => negInf
  | _, negInf => negInf

/-- Whether a number is below zero. -/
def isNegative : Binary64 → Bool
  | finite a => a < 0
  | negInf => true
  | _ => false

/-- Whether a number is zero. -/
def isZero : Binary64 → Bool
  | finite a => a == 0
  | _ => false

/-- Products. -/
def mul : Binary64 → Binary64 → Binary64
  | finite a, finite b => ofQuotient (decide (a < 0) != decide (b < 0)) (a.natAbs * b.natAbs) one
  | nan, _ => nan
  | _, nan => nan
  | a, b =>
    if a.isZero || b.isZero then nan
    else if a.isNegative != b.isNegative then negInf else posInf

/-- The power of two with a small exponent. -/
def twoPow (n : Nat) : Binary64 := ofNat (Nat.pow 2 n)

instance : Add Binary64 := ⟨add⟩

instance : Mul Binary64 := ⟨mul⟩

/-- Whether a number is neither infinite nor undefined. -/
def isFinite : Binary64 → Bool
  | finite _ => true
  | _ => false

/-- Whether `a` is at least `b`; never so if one of them is undefined. -/
def atLeast : Binary64 → Binary64 → Bool
  | finite a, finite b => b ≤ a
  | nan, _ => false
  | _, nan => false
  | posInf, _ => true
  | _, negInf => true
  | negInf, _ => false
  | _, posInf => false

/-! ## Seconds as doubles -/

/-- A duration in seconds: the doubles nearest to the whole seconds and to the rest of a second,
added. -/
def ofDuration (d : Duration) : Binary64 :=
  ofNat d.secs + ofQuotient false (d.subsecNanos * one) 1_000_000_000

/-- The number itself, or zero for anything below zero and for what is no number. -/
def atLeastZero : Binary64 → Binary64
  | finite a => finite (max a 0)
  | posInf => posInf
  | _ => finite 0

/-- The duration nearest to a number of seconds, a tie going to the even nanosecond; none for
anything below zero, out of range, infinite or undefined. -/
def toDuration? : Binary64 → Option Duration
  | finite a =>
    if a < 0 then none
    else
      let n := nearestEven (a.toNat * 1_000_000_000) one
      if h : n < UInt64.size * 1_000_000_000 then some ⟨n, h⟩ else none
  | _ => none

/-- A number of seconds as a duration, cut off at `d`, which also stands for what is infinite or
undefined. -/
def capped? (d : Duration) (x : Binary64) : Option Duration :=
  if !x.isFinite || x.atLeast (ofDuration d) then some d else x.atLeastZero.toDuration?

end Binary64

end QueueClient
