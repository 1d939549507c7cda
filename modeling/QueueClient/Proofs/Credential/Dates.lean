/-
# Dates of signatures

The date in a header names the moment of a Unix time.  What that means is said by the rules of the
calendar: which years have a leap day, how long the months are, and how many days have gone by
before a day (`Date.number`).  The date itself is found the other way round, by a division with
years that begin in March, so that a leap day is the last day of its year.

In 400 years from one first of March on, a day has its place in a century, in four years of it and
in a year of these (`Place`).  The last century and the last of four years are a day longer than the
others, and this is all that the division has to take care of (`Place.year_eq`).
-/
import Mathlib.Tactic
import QueueClient.Calendar

namespace QueueClient.Calendar

/-! ## The rules of the calendar -/

/-- How many leap days a year has. -/
def leapDay (y : ℤ) : ℕ := if y % 4 = 0 ∧ (y % 100 ≠ 0 ∨ y % 400 = 0) then 1 else 0

/-- How many leap days the years from the first one to this one have. -/
def leapDays (y : ℤ) : ℤ := y / 4 - y / 100 + y / 400

/-- The lengths of the months of a year. -/
def monthLengths (y : ℤ) : List ℕ := [31, 28 + leapDay y, 31, 30, 31, 30, 31, 31, 30, 31, 30, 31]

/-- The calendar has this day. -/
structure Date.IsDay (d : Date) : Prop where
  month_pos : 1 ≤ d.month
  month_le : d.month ≤ 12
  day_pos : 1 ≤ d.day
  day_le : d.day ≤ (monthLengths d.year).getD (d.month - 1) 0

/-- How many days have gone by from the first of January 1970 to this day. -/
def Date.number (d : Date) : ℤ :=
  365 * (d.year - 1970) + (leapDays (d.year - 1) - leapDays 1969) +
    ((monthLengths d.year).take (d.month - 1)).sum + (d.day - 1)

lemma leapDays_eq_add (y : ℤ) : leapDays y = leapDays (y - 1) + leapDay y := by
  -- a year is counted, left out and counted after all
  have hfours : y / 4 = (y - 1) / 4 + if y % 4 = 0 then 1 else 0 := by split <;> omega
  have hhundreds : y / 100 = (y - 1) / 100 + if y % 100 = 0 then 1 else 0 := by split <;> omega
  have heras : y / 400 = (y - 1) / 400 + if y % 400 = 0 then 1 else 0 := by split <;> omega
  have hleap : (leapDay y : ℤ) = (if y % 4 = 0 then 1 else 0) - (if y % 100 = 0 then 1 else 0) +
      if y % 400 = 0 then 1 else 0 := by
    unfold leapDay
    split_ifs <;> first | rfl | omega
  rw [leapDays, leapDays, hleap, hfours, hhundreds, heras]
  ring

/-! ## Days by their place -/

/-- The place of a day in 400 years that begin in March: its century, its four years, its year and
its day. -/
structure Place (n c q k r : ℕ) : Prop where
  century_lt : c < 4
  fours_lt : q < 25
  year_lt : k < 4
  day_le : r ≤ 365
  /-- A leap day is the last day of the last of four years, but not at the end of a century, unless
  it is the last. -/
  leap : r = 365 → k = 3 ∧ (q = 24 → c = 3)
  eq : n = 36524 * c + 1461 * q + 365 * k + r

lemma exists_place {n : ℕ} (hn : n < 146097) : ∃ c q k r, Place n c q k r := by
  obtain ⟨c, hc⟩ : ∃ c, c = min (n / 36524) 3 := ⟨_, rfl⟩
  obtain ⟨m, hm⟩ : ∃ m, m = n - 36524 * c := ⟨_, rfl⟩
  obtain ⟨k, hk⟩ : ∃ k, k = min (m % 1461 / 365) 3 := ⟨_, rfl⟩
  exact ⟨c, m / 1461, k, m % 1461 - 365 * k, by omega, by omega, by omega, by omega, by omega,
    by omega⟩

namespace Place

variable {n c q k r : ℕ}

/-- With the leap days that have gone by taken off, all years are of the same length. -/
lemma year_eq (h : Place n c q k r) :
    (n - n / 1460 + n / 36524 - n / 146096) / 365 = 100 * c + 4 * q + k := by
  obtain ⟨hc, hq, hk, hr, hleap, hn⟩ := h
  have hcenturies : n / 36524 - n / 146096 = c := by omega
  have hle : n / 146096 ≤ n / 36524 := by omega
  -- the leap day may be counted too early, but only in a year that will have it
  have hleaps : n / 1460 = 25 * c + q ∨ n / 1460 = 25 * c + q + 1 ∧ k = 3 ∧ 1 ≤ r := by omega
  have hdays : n - n / 1460 + n / 36524 - n / 146096 = n - n / 1460 + c := by omega
  rw [hdays]
  omega

/-- The day of the year is what is left. -/
lemma day_eq (h : Place n c q k r) :
    n - (365 * (100 * c + 4 * q + k) + (100 * c + 4 * q + k) / 4 -
      (100 * c + 4 * q + k) / 100) = r := by
  obtain ⟨hc, hq, hk, hr, hleap, hn⟩ := h
  have hfours : (100 * c + 4 * q + k) / 4 = 25 * c + q := by omega
  have hhundreds : (100 * c + 4 * q + k) / 100 = c := by omega
  rw [hfours, hhundreds]
  omega

end Place

namespace Date

lemma ofDays_eq {days era : ℤ} {n c q k r : ℕ} (h : Place n c q k r)
    (hdays : days + 719468 = era * 146097 + n) :
    ofDays days =
      let shifted := (5 * r + 2) / 153
      let month := if shifted < 10 then shifted + 3 else shifted - 9
      ⟨(100 * c + 4 * q + k : ℕ) + era * 400 + (if month ≤ 2 then 1 else 0), month,
        r - (153 * shifted + 2) / 5 + 1⟩ := by
  have hn : n < 146097 := by
    obtain ⟨hc, hq, hk, hr, hleap, hn⟩ := h
    omega
  have hera : Int.fdiv (days + 719468) 146097 = era := by
    rw [Int.fdiv_eq_ediv_of_nonneg _ (by decide)]
    omega
  have hdayOfEra : (days + 719468 - era * 146097).toNat = n := by omega
  simp only [ofDays, hera, hdayOfEra, h.year_eq, h.day_eq]

/-- The days from March to December. -/
lemma number_of_march (y : ℤ) {r s : ℕ} (hs : s = (5 * r + 2) / 153) (hlt : s < 10) :
    (⟨y, s + 3, r - (153 * s + 2) / 5 + 1⟩ : Date).IsDay ∧
      (⟨y, s + 3, r - (153 * s + 2) / 5 + 1⟩ : Date).number =
        365 * (y - 1970) + (leapDays y - leapDays 1969) + 59 + r := by
  have hleap := leapDays_eq_add y
  interval_cases s
  all_goals
    refine ⟨⟨Nat.le_add_left 1 _, by simp only; omega, Nat.le_add_left 1 _, ?_⟩, ?_⟩
    · show _ + 1 ≤ _
      simp only [monthLengths, List.getD_cons_succ, List.getD_cons_zero, Nat.reduceAdd,
        Nat.reduceSub]
      omega
    · simp only [number, monthLengths, List.take_succ_cons, List.take_zero, List.sum_cons,
        List.sum_nil, Nat.reduceAdd, Nat.reduceSub]
      push_cast
      omega

/-- The days of January and February, which are in the next year. -/
lemma number_of_january (y : ℤ) {r s : ℕ} (hs : s = (5 * r + 2) / 153) (hge : 10 ≤ s)
    (hleap : r ≤ 364 + leapDay (y + 1)) (hr : r ≤ 365) :
    (⟨y + 1, s - 9, r - (153 * s + 2) / 5 + 1⟩ : Date).IsDay ∧
      (⟨y + 1, s - 9, r - (153 * s + 2) / 5 + 1⟩ : Date).number =
        365 * (y - 1970) + (leapDays y - leapDays 1969) + 59 + r := by
  obtain rfl | rfl : s = 10 ∨ s = 11 := by omega
  all_goals
    refine ⟨⟨by simp only; omega, by simp only; omega, Nat.le_add_left 1 _, ?_⟩, ?_⟩
    · show _ + 1 ≤ _
      simp only [monthLengths, List.getD_cons_succ, List.getD_cons_zero, Nat.reduceSub]
      omega
    · simp only [number, monthLengths, List.take_succ_cons, List.take_zero, List.sum_cons,
        List.sum_nil, Nat.reduceSub, add_sub_cancel_right]
      push_cast
      omega

/-- **The date of a day is a day of the calendar, and so many days have gone by.** -/
theorem number_ofDays (days : ℤ) : (ofDays days).IsDay ∧ (ofDays days).number = days := by
  obtain ⟨era, hera⟩ : ∃ era, era = (days + 719468) / 146097 := ⟨_, rfl⟩
  obtain ⟨n, hn⟩ : ∃ n : ℕ, n = ((days + 719468) % 146097).toNat := ⟨_, rfl⟩
  obtain ⟨c, q, k, r, h⟩ := exists_place (n := n) (by omega)
  have hdays : days + 719468 = era * 146097 + n := by omega
  rw [ofDays_eq h hdays]
  obtain ⟨hc, hq, hk, hr, hleap, hplace⟩ := h
  obtain ⟨y, hy⟩ : ∃ y : ℤ, y = (100 * c + 4 * q + k : ℕ) + era * 400 := ⟨_, rfl⟩
  have hleapDay : r ≤ 364 + leapDay (y + 1) := by
    unfold leapDay
    split <;> omega
  have hnumber : 365 * (y - 1970) + (leapDays y - leapDays 1969) + 59 + r = days := by
    have hfours : y / 4 = 25 * c + q + era * 100 := by omega
    have hhundreds : y / 100 = c + era * 4 := by omega
    have heras : y / 400 = era := by omega
    rw [leapDays, leapDays, hfours, hhundreds, heras]
    omega
  obtain ⟨s, hs⟩ : ∃ s, s = (5 * r + 2) / 153 := ⟨_, rfl⟩
  rw [← hnumber, ← hy, ← hs]
  rcases lt_or_ge s 10 with hlt | hge
  · have hmonth : ¬ s + 3 ≤ 2 := by omega
    simp only [hlt, hmonth, if_true, if_false, add_zero]
    exact number_of_march y hs hlt
  · have hmonth : s - 9 ≤ 2 := by omega
    simp only [hge.not_gt, hmonth, if_true, if_false]
    exact number_of_january y hs hge hleapDay hr

end Date

/-! ## The text of a date -/

/-- The last digits of a number, so many of them. -/
def digits : ℕ → ℕ → List Char
  | 0, _ => []
  | width + 1, n => digits width (n / 10) ++ [Nat.digitChar (n % 10)]

/-- A year in four digits; one that has more or lies before the year zero has a sign. -/
def yearDigits (y : ℤ) : String :=
  (if y < 0 then "-" else if 9999 < y then "+" else "") ++
    if y.natAbs < 10000 then String.ofList (digits 4 y.natAbs) else toString y.natAbs

/-- The text names the moment of a Unix time, as headers do: by the day of the week, the day, the
month, the year and the time of day. -/
def Names (text : String) (t : ℤ) : Prop :=
  ∃ (date : Date) (hour minute second : ℕ),
    date.IsDay ∧ hour < 24 ∧ minute < 60 ∧ second < 60 ∧
    t = 86400 * date.number + (3600 * hour + 60 * minute + second : ℕ) ∧
    text = ["Thu", "Fri", "Sat", "Sun", "Mon", "Tue", "Wed"].getD (date.number % 7).toNat "" ++
      ", " ++ String.ofList (digits 2 date.day) ++ " " ++
      ["Jan", "Feb", "Mar", "Apr", "May", "Jun", "Jul", "Aug", "Sep", "Oct", "Nov", "Dec"].getD
        (date.month - 1) "" ++ " " ++ yearDigits date.year ++ " " ++
      String.ofList (digits 2 hour) ++ ":" ++ String.ofList (digits 2 minute) ++ ":" ++
      String.ofList (digits 2 second) ++ " GMT"

lemma digits_zero (width : ℕ) : digits width 0 = List.replicate width '0' := by
  induction width with
  | zero => rfl
  | succ width ih =>
    rw [digits, Nat.zero_div, ih, List.replicate_succ']
    rfl

/-- A number that is short enough is filled up with zeros. -/
lemma replicate_append_toDigits (width : ℕ) {n : ℕ} (h : n < 10 ^ (width + 1)) :
    List.replicate (width + 1 - (Nat.toDigits 10 n).length) '0' ++ Nat.toDigits 10 n =
      digits (width + 1) n := by
  induction width generalizing n with
  | zero =>
    have hn : n < 10 := h
    rw [Nat.toDigits_of_lt_base hn, digits, digits, Nat.mod_eq_of_lt hn]
    rfl
  | succ width ih =>
    rcases lt_or_ge n 10 with hn | hn
    · rw [Nat.toDigits_of_lt_base hn, digits, Nat.mod_eq_of_lt hn, Nat.div_eq_of_lt hn, digits_zero]
      rfl
    · have hdiv : n / 10 < 10 ^ (width + 1) := by
        rw [pow_succ] at h
        omega
      rw [Nat.toDigits_of_base_le (by decide) hn, List.length_append, List.length_singleton, digits,
        ← ih hdiv, Nat.add_sub_add_right, List.append_assoc]

lemma padded_eq (width : ℕ) {n : ℕ} (h : n < 10 ^ (width + 1)) :
    Duration.padded (width + 1) n = String.ofList (digits (width + 1) n) := by
  rw [Duration.padded, replicate_append_toDigits width h]

/-- A number that is too long is not filled up. -/
lemma lt_length_toDigits (width : ℕ) {n : ℕ} (h : 10 ^ width ≤ n) :
    width < (Nat.toDigits 10 n).length := by
  induction width generalizing n with
  | zero =>
    rcases lt_or_ge n 10 with hn | hn
    · rw [Nat.toDigits_of_lt_base hn]
      exact Nat.one_pos
    · rw [Nat.toDigits_of_base_le (by decide) hn, List.length_append]
      exact Nat.succ_pos _
  | succ width ih =>
    have hpos : 0 < 10 ^ width := Nat.pow_pos (by decide)
    rw [pow_succ] at h
    rw [Nat.toDigits_of_base_le (by decide) (by omega), List.length_append]
    exact Nat.add_lt_add_right (ih (by omega)) 1

lemma yearText_eq (y : ℤ) : yearText y = yearDigits y := by
  have hpadded : Duration.padded 4 y.natAbs =
      if y.natAbs < 10000 then String.ofList (digits 4 y.natAbs) else toString y.natAbs := by
    split
    · rename_i h
      exact padded_eq 3 h
    · rename_i h
      have hlength := lt_length_toDigits 4 (Nat.le_of_not_lt h)
      rw [Duration.padded, Nat.sub_eq_zero_of_le hlength.le]
      rfl
  rw [yearText, yearDigits, ← hpadded]
  by_cases hneg : y < 0
  · rw [if_neg (by omega), if_pos hneg, if_pos hneg]
  · by_cases hlong : 9999 < y
    · rw [if_neg (by omega), if_neg hneg, if_neg hneg, if_pos hlong]
    · have hnat : y.natAbs = y.toNat := by omega
      rw [if_pos (by omega), if_neg hneg, if_neg hlong, hnat]
      exact (String.empty_append).symm

lemma weekdayName_eq (days : ℤ) :
    weekdayNames.getD (weekday days) "" =
      ["Thu", "Fri", "Sat", "Sun", "Mon", "Tue", "Wed"].getD (days % 7).toNat "" := by
  obtain ⟨i, hi⟩ : ∃ i : ℕ, (days % 7).toNat = i := ⟨_, rfl⟩
  have hlt : i < 7 := by omega
  have hweekday : weekday days = (i + 4) % 7 := by
    rw [weekday, Int.fmod_eq_emod_of_nonneg _ (by decide)]
    omega
  rw [hweekday, hi]
  interval_cases i <;> rfl

lemma Date.IsDay.day_lt {d : Date} (h : d.IsDay) : d.day < 100 := by
  obtain ⟨hpos, hle, -, hday⟩ := h
  have hmonth : d.month - 1 < 12 := by omega
  have hleap : leapDay d.year ≤ 1 := by
    rw [leapDay]
    split <;> decide
  obtain ⟨m, hm⟩ : ∃ m, d.month - 1 = m := ⟨_, rfl⟩
  rw [hm] at hday hmonth
  interval_cases m <;> simp [monthLengths] at hday <;> omega

/-- **The date in a header names the moment that it is made for.** -/
theorem names_headerDate (t : ℤ) : Names (headerDate t) t := by
  obtain ⟨days, hdays⟩ : ∃ days, Int.fdiv t daySeconds = days := ⟨_, rfl⟩
  obtain ⟨second, hsecond⟩ : ∃ second, (Int.fmod t daySeconds).toNat = second := ⟨_, rfl⟩
  have hsplit : t = 86400 * days + second ∧ second < 86400 := by
    rw [daySeconds, Int.fdiv_eq_ediv_of_nonneg _ (by decide)] at hdays
    rw [daySeconds, Int.fmod_eq_emod_of_nonneg _ (by decide)] at hsecond
    omega
  obtain ⟨hday, hnumber⟩ := Date.number_ofDays days
  refine ⟨Date.ofDays days, second / 3600, second / 60 % 60, second % 60, hday, by omega, by omega,
    by omega, ?_, ?_⟩
  · rw [hnumber]
    omega
  · have htwo : ∀ {n : ℕ}, n < 100 → Duration.padded 2 n = String.ofList (digits 2 n) :=
      fun h => padded_eq 1 h
    unfold headerDate
    dsimp only
    rw [hdays, hsecond, hnumber, weekdayName_eq, yearText_eq, htwo hday.day_lt, htwo (by omega),
      htwo (by omega), htwo (by omega)]
    rfl

end QueueClient.Calendar
