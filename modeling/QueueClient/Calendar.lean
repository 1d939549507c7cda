/-
# Calendar dates

Unix times as dates of the Gregorian calendar, extended to all years, and the fixed-width
English form of a date that signed requests carry.
-/
import QueueClient.Duration

namespace QueueClient.Calendar

/-- Seconds in a day. -/
def daySeconds : Int := 86400

/-- A day of the calendar. -/
structure Date where
  /-- The year; zero is the year before the year one. -/
  year : Int
  /-- From 1 for January to 12 for December. -/
  month : Nat
  /-- From 1 on. -/
  day : Nat
deriving DecidableEq, Repr

/-- The date that lies so many days after the first of January 1970.  Years are counted from
March, so that the leap day is the last day of its year. -/
def Date.ofDays (days : Int) : Date :=
  let z := days + 719468
  let era := Int.fdiv z 146097
  let dayOfEra := (z - era * 146097).toNat
  let yearOfEra := (dayOfEra - dayOfEra / 1460 + dayOfEra / 36524 - dayOfEra / 146096) / 365
  let dayOfYear := dayOfEra - (365 * yearOfEra + yearOfEra / 4 - yearOfEra / 100)
  let shifted := (5 * dayOfYear + 2) / 153
  let month := if shifted < 10 then shifted + 3 else shifted - 9
  { year := (yearOfEra : Int) + era * 400 + (if month ≤ 2 then 1 else 0)
    month := month
    day := dayOfYear - (153 * shifted + 2) / 5 + 1 }

/-- The day of the week of a day counted from the first of January 1970, a Thursday; 0 is Sunday. -/
def weekday (days : Int) : Nat := (Int.fmod (days + 4) 7).toNat

/-- Abbreviated names of the days of the week, from Sunday on. -/
def weekdayNames : List String := ["Sun", "Mon", "Tue", "Wed", "Thu", "Fri", "Sat"]

/-- Abbreviated names of the months. -/
def monthNames : List String :=
  ["Jan", "Feb", "Mar", "Apr", "May", "Jun", "Jul", "Aug", "Sep", "Oct", "Nov", "Dec"]

/-- A year with four digits at least; outside of 0 to 9999 it has a sign. -/
def yearText (y : Int) : String :=
  if 0 ≤ y ∧ y ≤ 9999 then Duration.padded 4 y.toNat
  else (if y < 0 then "-" else "+") ++ Duration.padded 4 y.natAbs

/-- Whether a Unix time lies in the years that can be written, -262143 to 262142. -/
def inRange (unixSeconds : Int) : Bool :=
  -8334601228800 ≤ unixSeconds && unixSeconds ≤ 8210266876799

/-- The date and time of day for a header, such as `Mon, 06 May 2024 07:08:09 GMT`. -/
def headerDate (unixSeconds : Int) : String :=
  let days := Int.fdiv unixSeconds daySeconds
  let second := (Int.fmod unixSeconds daySeconds).toNat
  let date := Date.ofDays days
  let two := Duration.padded 2
  weekdayNames.getD (weekday days) "" ++ ", " ++ two date.day ++ " " ++
    monthNames.getD (date.month - 1) "" ++ " " ++ yearText date.year ++ " " ++
    two (second / 3600) ++ ":" ++ two (second / 60 % 60) ++ ":" ++ two (second % 60) ++ " GMT"

end QueueClient.Calendar
