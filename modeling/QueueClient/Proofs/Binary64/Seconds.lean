/-
# Durations as doubles

The seconds of a duration become a double in three roundings: of the whole seconds, of the rest of
a second, and of their sum (`secondsQuanta`).  The double may be larger than the duration.  All the
same, a smaller double is never converted to a longer duration (`nanos_le_of_lt_secondsQuanta`), for
one of two reasons.  Up to 2⁵³ seconds the whole seconds are exact, and the error of the rest is
below half a nanosecond.  Beyond, doubles are at least two seconds apart, and the rest of a second
is lost in the sum.

For orders of magnitude the three roundings are within an eighth of the duration
(`secondsQuanta_close`).
-/
import QueueClient.Proofs.Binary64.Rounding

namespace QueueClient.Binary64

variable {num den g a b e : ℕ} {negative : Bool} {x y : Binary64} {d : Duration}

/-! ## Operations in range -/

/-- One is a power of two, with room for every smaller one. -/
lemma exists_one_eq (h : e ≤ 1074) : ∃ k, one = 2 ^ e * 2 ^ k := by
  have hone : one = 2 ^ one.log2 ∧ one.log2 = 1074 := by decide +kernel
  refine ⟨one.log2 - e, ?_⟩
  rw [← Nat.pow_add, Nat.add_sub_cancel' (by rwa [hone.2])]
  exact hone.1

lemma one_pos : 0 < one := by
  obtain ⟨k, hk⟩ := exists_one_eq (Nat.zero_le 1074)
  rw [hk]
  exact Nat.mul_pos (Nat.two_pow_pos 0) (Nat.two_pow_pos k)

lemma isDouble_mul_one {m : ℕ} (h : m ≤ 2 ^ 53) : IsDouble (m * one) := by
  obtain ⟨k, hk⟩ := exists_one_eq (Nat.zero_le 1074)
  rw [hk, Nat.pow_zero, Nat.one_mul]
  exact isDouble_mul_pow h k

lemma isDouble_one : IsDouble one := by
  rw [← Nat.one_mul one]
  exact isDouble_mul_one (by decide)

/-- A double times a power of two is a double. -/
lemma isDouble_mul_two_pow (hg : IsDouble g) (e : ℕ) : IsDouble (g * 2 ^ e) := by
  rcases Nat.eq_zero_or_pos g with rfl | hpos
  · rwa [Nat.zero_mul]
  · have hlog : (g * 2 ^ e).log2 = g.log2 + e := by
      have hself := Nat.log2_self_le hpos.ne'
      rw [Nat.log2_eq_iff (Nat.mul_pos hpos (Nat.two_pow_pos e)).ne', Nat.add_right_comm,
        Nat.pow_add, Nat.pow_add]
      exact ⟨Nat.mul_le_mul_right _ hself,
        Nat.mul_lt_mul_of_pos_right Nat.lt_log2_self (Nat.two_pow_pos e)⟩
    have hdvd : spacing (g * 2 ^ e) ∣ spacing g * 2 ^ e := by
      rw [spacing_eq, spacing_eq, hlog, ← Nat.pow_add]
      exact Nat.pow_dvd_pow 2 (by omega)
    exact hdvd.trans (Nat.mul_dvd_mul_right hg _)

lemma isDouble_two_pow_mul_one (e : ℕ) : IsDouble (2 ^ e * one) := by
  rw [Nat.mul_comm]
  exact isDouble_mul_two_pow isDouble_one e

/-- Up to 2²⁰⁰ everything is in range. -/
lemma two_pow_mul_one_lt_overflow : 2 ^ 200 * one < overflow := by decide +kernel

/-- What is not too large becomes finite. -/
lemma ofQuotient_eq (hden : 0 < den) (h : num ≤ den * (2 ^ 200 * one)) :
    ofQuotient false num den = finite (roundQuanta num den) := by
  rw [Nat.mul_comm] at h
  have hlt : roundQuanta num den < overflow :=
    (roundQuanta_le hden (isDouble_two_pow_mul_one 200) h).trans_lt two_pow_mul_one_lt_overflow
  simp [ofQuotient, hlt]

/-- A finite result of rounding is a double. -/
lemma isDouble_of_ofQuotient_eq {c : ℤ} (hden : 0 < den)
    (h : ofQuotient negative num den = finite c) : IsDouble c.natAbs := by
  rw [ofQuotient] at h
  have hround : IsDouble (roundQuanta num den) := isDouble_roundQuanta hden
  generalize roundQuanta num den = q at h hround
  split_ifs at h <;> rw [finite.injEq] at h <;> subst h
  · rwa [Int.natAbs_neg]
  · exact hround

lemma finite_add_finite (a b : ℕ) : finite a + finite b = ofQuotient false (a + b) 1 := by
  show add (finite a) (finite b) = _
  have hsign : ¬(a : ℤ) + b < 0 := by omega
  have habs : ((a : ℤ) + b).natAbs = a + b := by omega
  rw [add, decide_eq_false hsign, habs]

lemma finite_mul_finite (a b : ℕ) : finite a * finite b = ofQuotient false (a * b) one := by
  show mul (finite a) (finite b) = _
  rw [mul, Int.natAbs_natCast, Int.natAbs_natCast,
    decide_eq_false (not_lt.mpr (Int.natCast_nonneg a)),
    decide_eq_false (not_lt.mpr (Int.natCast_nonneg b)), bne_self_eq_false]

/-- Products are doubles. -/
lemma isDouble_of_mul_eq {c : ℤ} (h : x * y = finite c) : IsDouble c.natAbs := by
  change mul x y = finite c at h
  cases x <;> cases y <;> simp only [mul, reduceCtorEq] at h
  case finite.finite => exact isDouble_of_ofQuotient_eq one_pos h
  all_goals split_ifs at h

/-! ## The seconds of a duration -/

/-- The whole seconds, in quanta. -/
def wholeQuanta (d : Duration) : ℕ := roundQuanta (d.secs * one) 1

/-- The rest of a second, in quanta. -/
def restQuanta (d : Duration) : ℕ := roundQuanta (d.subsecNanos * one) 1_000_000_000

/-- All seconds of a duration, in quanta. -/
def secondsQuanta (d : Duration) : ℕ := roundQuanta (wholeQuanta d + restQuanta d) 1

lemma isDouble_secondsQuanta : IsDouble (secondsQuanta d) := isDouble_roundQuanta Nat.one_pos

lemma wholeQuanta_le (d : Duration) : wholeQuanta d ≤ 2 ^ 64 * one := by
  refine roundQuanta_le Nat.one_pos (isDouble_two_pow_mul_one 64) ?_
  rw [Nat.mul_one]
  exact Nat.mul_le_mul_right one (Nat.le_of_lt d.secs_lt)

/-- The rest of a second stays below one second, also when it is rounded. -/
lemma restQuanta_lt (d : Duration) : restQuanta d < one := by
  obtain ⟨k, hk⟩ := exists_one_eq (e := 30) (by decide)
  have hle : restQuanta d ≤ (2 ^ 30 - 1) * 2 ^ k := by
    refine roundQuanta_le (by decide) (isDouble_mul_pow (by decide) k) ?_
    have hrest : d.subsecNanos * one ≤ 999_999_999 * one :=
      Nat.mul_le_mul_right one (Nat.le_of_lt_succ d.subsecNanos_lt)
    omega
  have hpos := Nat.two_pow_pos k
  omega

lemma secondsQuanta_le (d : Duration) : secondsQuanta d ≤ 2 ^ 65 * one := by
  refine roundQuanta_le Nat.one_pos (isDouble_two_pow_mul_one 65) ?_
  have hwhole := wholeQuanta_le d
  have hrest := restQuanta_lt d
  omega

/-- **The seconds of a duration as a double** are always finite. -/
theorem ofDuration_eq (d : Duration) : ofDuration d = finite (secondsQuanta d) := by
  have hsecs := Nat.mul_le_mul_right one (Nat.le_of_lt d.secs_lt)
  have hrest := Nat.mul_le_mul_right one (Nat.le_of_lt d.subsecNanos_lt)
  have hwhole := wholeQuanta_le d
  have hpart := restQuanta_lt d
  rw [UInt64.size] at hsecs
  have hleft : ofNat d.secs = finite (wholeQuanta d) := ofQuotient_eq Nat.one_pos (by omega)
  have hright : ofQuotient false (d.subsecNanos * one) 1_000_000_000 = finite (restQuanta d) :=
    ofQuotient_eq (by decide) (by omega)
  rw [ofDuration, hleft, hright, finite_add_finite]
  exact ofQuotient_eq Nat.one_pos (by omega)

lemma nanos_mul_one (d : Duration) :
    d.nanos * one = d.secs * one * 1_000_000_000 + d.subsecNanos * one := by
  rw [← d.secs_add_subsecNanos]
  ring

/-! ## No double lies between -/

/-- Up to 2⁵³ the whole seconds are exact. -/
lemma wholeQuanta_of_le (h : d.secs ≤ 2 ^ 53) : wholeQuanta d = d.secs * one := by
  have hround := roundQuanta_of_isDouble Nat.one_pos (isDouble_mul_one h)
  rwa [Nat.mul_one] at hround

/-- From 2⁵³ on they are so large that the next double is two seconds away at least. -/
lemma two_mul_one_le_spacing (h : 2 ^ 53 ≤ d.secs) : 2 * one ≤ spacing (wholeQuanta d) := by
  have hlarge : 2 ^ 53 * one ≤ wholeQuanta d := by
    refine le_roundQuanta Nat.one_pos (isDouble_two_pow_mul_one 53) ?_
    rw [Nat.mul_one]
    exact Nat.mul_le_mul_right one h
  have hthere : spacing (2 ^ 53 * one) = 2 * one := by
    obtain ⟨k, hk⟩ := exists_one_eq (e := 0) (by decide)
    have hexponent : 53 + k - 52 = 1 + k := by omega
    rw [hk, Nat.pow_zero, Nat.one_mul, ← Nat.pow_add, spacing_eq, Nat.log2_two_pow, hexponent,
      Nat.pow_add, Nat.pow_one]
  rw [← hthere]
  exact Nat.le_of_dvd (spacing_pos _) (spacing_dvd_spacing hlarge)

/-- The rest of a second is never half a nanosecond too large. -/
lemma restQuanta_error (d : Duration) :
    2 * (restQuanta d * 1_000_000_000) ≤ 2 * (d.subsecNanos * one) + one := by
  have hrest := Nat.mul_le_mul_right one (Nat.le_of_lt d.subsecNanos_lt)
  have hquotient : d.subsecNanos * one / 1_000_000_000 ≤ one := Nat.div_le_of_le_mul hrest
  have hspacing : 2 ^ 52 * spacing (d.subsecNanos * one / 1_000_000_000) ≤ one := by
    rcases spacing_eq_one_or (d.subsecNanos * one / 1_000_000_000) with hone | hle
    · obtain ⟨k, hk⟩ := exists_one_eq (e := 52) (by decide)
      have := Nat.two_pow_pos k
      omega
    · exact hle.trans hquotient
  have hden : 0 < 1_000_000_000 := by decide
  have herror := (roundQuanta_error (d.subsecNanos * one) hden).1
  rw [restQuanta]
  omega

/-- **A smaller double is no longer duration.** -/
theorem nanos_le_of_lt_secondsQuanta (hg : IsDouble g) (h : g < secondsQuanta d) :
    nearestEven (g * 1_000_000_000) one ≤ d.nanos := by
  have hnanos := nanos_mul_one d
  by_contra hlong
  have hmiddle : 2 * (d.nanos * one) + one ≤ 2 * (g * 1_000_000_000) := by
    rw [nearestEven_le_iff one_pos, not_or, not_lt] at hlong
    have hdouble : (2 * d.nanos + 1) * one = 2 * (d.nanos * one) + one := by ring
    omega
  -- `g` is beyond the duration by half a nanosecond, and so is its double at most `g`
  refine absurd h (not_lt.mpr ?_)
  rcases Nat.le_total d.secs (2 ^ 53) with hsmall | hlarge
  · have hrest := restQuanta_error d
    refine roundQuanta_le Nat.one_pos hg ?_
    rw [wholeQuanta_of_le hsmall]
    omega
  · have hwhole : wholeQuanta d ≤ g := roundQuanta_le Nat.one_pos hg (by omega)
    have hrest := restQuanta_lt d
    have hspacing := two_mul_one_le_spacing hlarge
    have hlost : secondsQuanta d = wholeQuanta d :=
      roundQuanta_add_of_lt (isDouble_roundQuanta Nat.one_pos) (by omega)
    exact hlost.trans_le hwhole

/-! ## Orders of magnitude -/

/-- Where doubles have 53 binary digits, rounding changes a number by less than a sixteenth. -/
lemma roundQuanta_close (hden : 0 < den) (h : num = 0 ∨ 2 ^ 52 * den ≤ num) :
    15 * num ≤ 16 * (roundQuanta num den * den) ∧
      16 * (roundQuanta num den * den) ≤ 17 * num := by
  rcases h with rfl | hlarge
  · have hzero : roundQuanta 0 den = 0 :=
      Nat.le_zero.mp (roundQuanta_le hden (Nat.dvd_zero _) (Nat.zero_le _))
    rw [hzero]
    omega
  · have hquotient : 2 ^ 52 ≤ num / den := (Nat.le_div_iff_mul_le hden).mpr hlarge
    have hspacing : 2 ^ 52 * (den * spacing (num / den)) ≤ num :=
      calc 2 ^ 52 * (den * spacing (num / den)) = 2 ^ 52 * spacing (num / den) * den := by ring
        _ ≤ num / den * den := Nat.mul_le_mul_right den (spacing_mul_le hquotient)
        _ ≤ num := Nat.div_mul_le_self num den
    have herror := roundQuanta_error num hden
    omega

/-- **The seconds of a duration as a double** are at most an eighth off. -/
lemma secondsQuanta_close (d : Duration) :
    225 * (d.nanos * one) ≤ 256 * (secondsQuanta d * 1_000_000_000) ∧
      256 * (secondsQuanta d * 1_000_000_000) ≤ 289 * (d.nanos * one) := by
  obtain ⟨k, hk⟩ := exists_one_eq (e := 82) (by decide)
  have hpos := Nat.two_pow_pos k
  -- a whole number of seconds, or of nanoseconds, is none or very many quanta
  have hmany : ∀ n : ℕ, n * one = 0 ∨ one ≤ n * one := by
    intro n
    rcases Nat.eq_zero_or_pos n with rfl | hn
    · exact Or.inl (Nat.zero_mul one)
    · exact Or.inr (Nat.le_mul_of_pos_left one hn)
  have hsecs := hmany d.secs
  have hnanos := hmany d.subsecNanos
  have hwhole : 15 * (d.secs * one) ≤ 16 * (wholeQuanta d * 1) ∧
      16 * (wholeQuanta d * 1) ≤ 17 * (d.secs * one) :=
    roundQuanta_close Nat.one_pos (by omega)
  have hrest : 15 * (d.subsecNanos * one) ≤ 16 * (restQuanta d * 1_000_000_000) ∧
      16 * (restQuanta d * 1_000_000_000) ≤ 17 * (d.subsecNanos * one) :=
    roundQuanta_close (by decide) (by omega)
  have hsum : 15 * (wholeQuanta d + restQuanta d) ≤ 16 * (secondsQuanta d * 1) ∧
      16 * (secondsQuanta d * 1) ≤ 17 * (wholeQuanta d + restQuanta d) :=
    roundQuanta_close Nat.one_pos (by omega)
  have htotal := nanos_mul_one d
  omega

end QueueClient.Binary64
