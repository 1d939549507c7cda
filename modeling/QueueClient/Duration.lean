/-
# Durations and instants

A duration is a whole number of nanoseconds, less than 2⁶⁴ seconds.  The bound is part of the
type, so that every duration can be written down as whole seconds (64 bits) and a rest below
one second; constructions that could leave the range stop at its end.  An instant is counted
in nanoseconds from the time at which the clock was set going.  The clock itself stands at
whole milliseconds only, so a timer set for an instant goes off at the first whole millisecond
at or after it (`Instant.tick`).

The clock counts its seconds in 64 bits with a sign, so the sum of an instant and a duration
need not be an instant: `Instant.after?` is none there.  A wait that would end beyond the last
instant ends thirty years on instead (`Instant.wakeUp?`).
-/

namespace QueueClient

/-- A span of time: nanoseconds, fewer than 2⁶⁴ seconds of them. -/
structure Duration where
  /-- The length in nanoseconds. -/
  nanos : Nat
  /-- Whole seconds fit into 64 bits. -/
  nanos_lt : nanos < UInt64.size * 1_000_000_000
deriving DecidableEq

namespace Duration

/-- The longest duration. -/
def longest : Duration := ⟨UInt64.size * 1_000_000_000 - 1, by decide⟩

/-- The duration of `n` nanoseconds, or the longest one if that is out of range. -/
def ofNanos (n : Nat) : Duration :=
  if h : n < UInt64.size * 1_000_000_000 then ⟨n, h⟩ else longest

/-- The duration of `n` milliseconds, or the longest one if that is out of range. -/
def ofMillis (n : Nat) : Duration := ofNanos (n * 1_000_000)

/-- The duration of `n` seconds, or the longest one if that is out of range. -/
def ofSecs (n : Nat) : Duration := ofNanos (n * 1_000_000_000)

/-- The duration of no time at all. -/
def zero : Duration := ⟨0, by decide⟩

/-- Whole seconds. -/
def secs (d : Duration) : Nat := d.nanos / 1_000_000_000

/-- What is left beyond the whole seconds, in nanoseconds. -/
def subsecNanos (d : Duration) : Nat := d.nanos % 1_000_000_000

/-- Whole milliseconds. -/
def millis (d : Duration) : Nat := d.nanos / 1_000_000

/-- Whether no time passes. -/
def isZero (d : Duration) : Bool := d.nanos == 0

instance : Inhabited Duration := ⟨zero⟩

instance : LE Duration := ⟨fun a b => a.nanos ≤ b.nanos⟩

instance : LT Duration := ⟨fun a b => a.nanos < b.nanos⟩

instance (a b : Duration) : Decidable (a ≤ b) := inferInstanceAs (Decidable (a.nanos ≤ b.nanos))

instance (a b : Duration) : Decidable (a < b) := inferInstanceAs (Decidable (a.nanos < b.nanos))

instance : Min Duration := ⟨fun a b => if a ≤ b then a else b⟩

instance : Max Duration := ⟨fun a b => if a ≤ b then b else a⟩

@[ext] theorem ext {a b : Duration} (h : a.nanos = b.nanos) : a = b := by
  cases a; cases b; simp_all

theorem le_iff {a b : Duration} : a ≤ b ↔ a.nanos ≤ b.nanos := Iff.rfl

theorem nanos_ofNanos {n : Nat} (h : n < UInt64.size * 1_000_000_000) : (ofNanos n).nanos = n := by
  unfold ofNanos
  rw [dif_pos h]

theorem secs_lt (d : Duration) : d.secs < UInt64.size := by
  have := d.nanos_lt
  unfold secs
  omega

theorem subsecNanos_lt (d : Duration) : d.subsecNanos < 1_000_000_000 :=
  Nat.mod_lt _ (by decide)

/-- Seconds and rest make up the duration. -/
theorem secs_add_subsecNanos (d : Duration) :
    d.secs * 1_000_000_000 + d.subsecNanos = d.nanos := by
  unfold secs subsecNanos
  omega

/-! ## Written forms -/

/-- The decimal digits of `n`, with zeros in front up to `width` of them. -/
def padded (width n : Nat) : String :=
  let digits := (Nat.toDigits 10 n)
  String.ofList (List.replicate (width - digits.length) '0' ++ digits)

/-- Seconds with all nine decimal places. -/
def toDecimal (d : Duration) : String :=
  toString d.secs ++ "." ++ padded 9 d.subsecNanos

/-- A number with the `width`-digit fraction `frac`, whose trailing zeros are not written; no
point without digits behind it. -/
def trimmed (whole frac width : Nat) : String :=
  let digits := ((padded width frac).toList.reverse.dropWhile (· == '0')).reverse
  if digits.isEmpty then toString whole else toString whole ++ "." ++ String.ofList digits

/-- The short form for messages: the largest of the units `s`, `ms`, `µs`, `ns` of which there is
at least one whole, with the rest as a fraction. -/
def compact (d : Duration) : String :=
  if d.secs ≠ 0 then trimmed d.secs d.subsecNanos 9 ++ "s"
  else if d.nanos ≥ 1_000_000 then trimmed (d.nanos / 1_000_000) (d.nanos % 1_000_000) 6 ++ "ms"
  else if d.nanos ≥ 1_000 then trimmed (d.nanos / 1_000) (d.nanos % 1_000) 3 ++ "µs"
  else toString d.nanos ++ "ns"

end Duration

/-! ## Instants

Points on the clock are natural numbers: nanoseconds since the clock was set going. -/

namespace Instant

/-- The last instant that the clock can name. -/
def last : Nat := UInt64.size / 2 * 1_000_000_000 - 1

/-- The instant that is so much later, if the clock can name it. -/
def after? (t : Nat) (d : Duration) : Option Nat :=
  if t + d.nanos ≤ last then some (t + d.nanos) else none

/-- Thirty years of 365 days. -/
def thirtyYears : Duration := .ofSecs (30 * 365 * 86_400)

/-- The instant at which a wait of some length ends: one that the clock cannot name gives way to
the one thirty years on. -/
def wakeUp? (t : Nat) (d : Duration) : Option Nat := (after? t d).or (after? t thirtyYears)

/-- The time from `earlier` to `t`; none if `t` is not later. -/
def since (t earlier : Nat) : Duration := Duration.ofNanos (t - earlier)

/-- The first whole millisecond at or after an instant. -/
def tick (t : Nat) : Nat := (t + 999_999) / 1_000_000 * 1_000_000

theorem after?_of_le {t : Nat} {d : Duration} (h : t + d.nanos ≤ last) :
    after? t d = some (t + d.nanos) := if_pos h

theorem after?_of_lt {t : Nat} {d : Duration} (h : last < t + d.nanos) : after? t d = none :=
  if_neg (Nat.not_le.mpr h)

theorem after?_eq_none_iff {t : Nat} {d : Duration} :
    after? t d = none ↔ last < t + d.nanos := by
  rw [after?]
  split <;> simp_all

theorem le_tick (t : Nat) : t ≤ tick t := by
  unfold tick
  omega

end Instant

end QueueClient
