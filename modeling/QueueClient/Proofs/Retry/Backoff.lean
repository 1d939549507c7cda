/-
# The waits between tries

The wait before a retry is computed in doubles: the first wait in seconds, times a power of two,
times a factor of jitter (`scaled`), cut off at the longest wait and converted back (`capped?`).
The first product is exact, since a power of two moves no binary digit, so each wait is rounded once
on the way to a double and once on the way to whole nanoseconds.  Rounding keeps the order, and that
decides everything here.

* What is converted at all lies below the longest wait, so the conversion never fails and its result
  is no longer (`capped?_eq_some`, `capped_le`).  From here on the wait is a total function
  (`delay`).
* Twice the smallest factor is more than the largest one, so each wait is at least as long as the
  one before, however the two factors are drawn (`delay_le_delay_succ`).
* The power of two stops growing at 2⁶².  The waits after that are the longest wait, if this is at
  most 2⁶¹ times the first one (`delay_eq_maxRetryDelay`).
-/
import QueueClient.Proofs.Binary64.Seconds
import QueueClient.Retry.Options

namespace QueueClient

variable {d : Duration} {num num' e : ℕ} {a : ℤ} {x : Binary64}

lemma Duration.ofNanos_le (h : num ≤ d.nanos) : ofNanos num ≤ d := by
  rw [le_iff, nanos_ofNanos (h.trans_lt d.nanos_lt)]
  exact h

namespace Binary64

/-! ## Conversion with a cap -/

/-- A number of seconds as a duration, cut off at `d`, which also stands for what cannot be
converted. -/
def capped (d : Duration) (x : Binary64) : Duration := (capped? d x).getD d

lemma capped?_finite (d : Duration) (a : ℤ) :
    capped? d (finite a) =
      if secondsQuanta d ≤ a then some d else (finite a).atLeastZero.toDuration? := by
  rw [capped?, ofDuration_eq, isFinite, atLeast]
  simp only [Bool.not_true, Bool.false_or, decide_eq_true_eq]

/-- What is not cut off is no longer than the cap. -/
lemma nearestEven_toNat_le (ha : IsDouble a.natAbs) (h : a < secondsQuanta d) :
    nearestEven (a.toNat * 1_000_000_000) one ≤ d.nanos := by
  rcases le_or_gt 0 a with hpos | hneg
  · refine nanos_le_of_lt_secondsQuanta ?_ (by omega)
    have habs : a.toNat = a.natAbs := by omega
    rwa [habs]
  · have hzero : a.toNat = 0 := by omega
    rw [hzero]
    exact nearestEven_le one_pos (by omega)

/-- **The conversion does not fail** below the cap. -/
lemma capped?_of_lt (ha : IsDouble a.natAbs) (h : a < secondsQuanta d) :
    capped? d (finite a) = some (.ofNanos (nearestEven (a.toNat * 1_000_000_000) one)) := by
  have hrange : nearestEven (a.toNat * 1_000_000_000) one < UInt64.size * 1_000_000_000 :=
    (nearestEven_toNat_le ha h).trans_lt d.nanos_lt
  have hmax : (max a 0).toNat = a.toNat := by omega
  rw [capped?_finite, if_neg (not_le.mpr h), atLeastZero, toDuration?, if_neg (by omega), hmax]
  simp only [hrange, dite_true, Duration.ofNanos]

/-- Nor does it fail for anything else that a computation can come to. -/
lemma capped?_eq_some (hx : ∀ a, x = finite a → IsDouble a.natAbs) :
    capped? d x = some (capped d x) := by
  have hsome : ∃ e, capped? d x = some e := by
    cases x with
    | finite a =>
      rcases le_or_gt (secondsQuanta d : ℤ) a with h | h
      · exact ⟨d, by rw [capped?_finite, if_pos h]⟩
      · exact ⟨_, capped?_of_lt (hx a rfl) h⟩
    | _ => exact ⟨d, rfl⟩
  obtain ⟨e, he⟩ := hsome
  rw [capped, he, Option.getD_some]

lemma capped_of_le (h : (secondsQuanta d : ℤ) ≤ a) : capped d (finite a) = d := by
  rw [capped, capped?_finite, if_pos h, Option.getD_some]

lemma capped_of_lt (ha : IsDouble a.natAbs) (h : a < secondsQuanta d) :
    capped d (finite a) = .ofNanos (nearestEven (a.toNat * 1_000_000_000) one) := by
  rw [capped, capped?_of_lt ha h, Option.getD_some]

/-- **The cap holds.** -/
lemma capped_le (hx : ∀ a, x = finite a → IsDouble a.natAbs) : capped d x ≤ d := by
  cases x with
  | finite a =>
    rcases le_or_gt (secondsQuanta d : ℤ) a with h | h
    · rw [capped_of_le h]
      exact Nat.le_refl _
    · rw [capped_of_lt (hx a rfl) h]
      exact Duration.ofNanos_le (nearestEven_toNat_le (hx a rfl) h)
  | _ => exact Nat.le_refl _

/-! ## Rounded numbers under the cap -/

lemma secondsQuanta_lt_overflow (d : Duration) : secondsQuanta d < overflow := by
  have hle := secondsQuanta_le d
  have hrange := two_pow_mul_one_lt_overflow
  omega

/-- A number that is out of range is cut off like one that is too large. -/
lemma capped_ofQuotient (d : Duration) (num : ℕ) :
    capped d (ofQuotient false num one) =
      if secondsQuanta d ≤ roundQuanta num one then d
      else .ofNanos (nearestEven (roundQuanta num one * 1_000_000_000) one) := by
  by_cases hlt : roundQuanta num one < overflow
  · have hfinite : ofQuotient false num one = finite (roundQuanta num one) := by
      simp [ofQuotient, hlt]
    rw [hfinite]
    split_ifs with h
    · exact capped_of_le (Nat.cast_le.mpr h)
    · have hdouble : IsDouble ((roundQuanta num one : ℕ) : ℤ).natAbs := by
        rw [Int.natAbs_natCast]
        exact isDouble_roundQuanta one_pos
      rw [capped_of_lt hdouble (Nat.cast_lt.mpr (not_le.mp h)), Int.toNat_natCast]
  · have hinfinite : ofQuotient false num one = posInf := by
      simp [ofQuotient, hlt]
    rw [hinfinite, if_pos ((secondsQuanta_lt_overflow d).le.trans (not_lt.mp hlt))]
    rfl

/-- **The order is kept** by rounding, cap and conversion. -/
lemma capped_ofQuotient_mono (h : num ≤ num') :
    capped d (ofQuotient false num one) ≤ capped d (ofQuotient false num' one) := by
  have hround : roundQuanta num one ≤ roundQuanta num' one :=
    roundQuanta_mono one_pos one_pos (Nat.mul_le_mul_right one h)
  have hbelow : ∀ q, IsDouble q → ¬secondsQuanta d ≤ q →
      nearestEven (q * 1_000_000_000) one ≤ d.nanos := fun q hq hlt =>
    nanos_le_of_lt_secondsQuanta hq (not_le.mp hlt)
  rw [capped_ofQuotient, capped_ofQuotient]
  split_ifs with hcut hcut' hcut'
  · exact Nat.le_refl _
  · exact absurd (hcut.trans hround) hcut'
  · exact Duration.ofNanos_le (hbelow _ (isDouble_roundQuanta one_pos) hcut)
  · have hrange := (hbelow _ (isDouble_roundQuanta one_pos) hcut').trans_lt d.nanos_lt
    refine Duration.ofNanos_le ?_
    rw [Duration.nanos_ofNanos hrange]
    exact nearestEven_mono one_pos one_pos
      (Nat.mul_le_mul_right one (Nat.mul_le_mul_right 1_000_000_000 hround))

lemma capped_ofQuotient_of_le (h : secondsQuanta d * one ≤ num) :
    capped d (ofQuotient false num one) = d := by
  rw [capped_ofQuotient, if_pos (le_roundQuanta one_pos isDouble_secondsQuanta h)]

/-! ## The exact product -/

lemma twoPow_eq (h : e ≤ 62) : twoPow e = finite ((2 ^ e * one : ℕ) : ℤ) := by
  have hpow : 2 ^ e ≤ 2 ^ 62 := Nat.pow_le_pow_right (by decide) h
  have hround : roundQuanta (2 ^ e * one) 1 = 2 ^ e * one := by
    have hexact := roundQuanta_of_isDouble Nat.one_pos (isDouble_two_pow_mul_one e)
    rwa [Nat.mul_one] at hexact
  have hbound : 2 ^ e * one ≤ 1 * (2 ^ 200 * one) := by
    rw [Nat.one_mul]
    exact Nat.mul_le_mul_right one (by omega)
  have hfinite := ofQuotient_eq Nat.one_pos hbound
  rwa [hround] at hfinite

lemma ofDuration_mul_twoPow (d : Duration) (h : e ≤ 62) :
    ofDuration d * twoPow e = finite ((secondsQuanta d * 2 ^ e : ℕ) : ℤ) := by
  have hpow : 2 ^ e ≤ 2 ^ 62 := Nat.pow_le_pow_right (by decide) h
  have hround : roundQuanta (secondsQuanta d * (2 ^ e * one)) one = secondsQuanta d * 2 ^ e := by
    rw [← Nat.mul_assoc]
    exact roundQuanta_of_isDouble one_pos (isDouble_mul_two_pow isDouble_secondsQuanta e)
  have hbound : secondsQuanta d * (2 ^ e * one) ≤ one * (2 ^ 200 * one) :=
    calc secondsQuanta d * (2 ^ e * one) ≤ 2 ^ 65 * one * (2 ^ 62 * one) :=
          Nat.mul_le_mul (secondsQuanta_le d) (Nat.mul_le_mul_right one hpow)
      _ = one * (2 ^ 127 * one) := by ring
      _ ≤ one * (2 ^ 200 * one) :=
          Nat.mul_le_mul_left one (Nat.mul_le_mul_right one (by decide))
  rw [ofDuration_eq, twoPow_eq h, finite_mul_finite, ofQuotient_eq one_pos hbound, hround]

end Binary64

namespace RetryOptions

open Binary64

variable {o : RetryOptions} {retry q q' : ℕ} {j j' factor draw : Binary64}

/-- The wait before a retry; the longest wait where the conversion fails. -/
def delay (o : RetryOptions) (retry : ℕ) (factor : Binary64) : Duration :=
  (o.delay? retry factor).getD o.maxRetryDelay

lemma delay_fixed (h : o.backoff = .fixed) :
    o.delay retry factor = min o.retryDelay o.maxRetryDelay := by
  rw [delay, delay?, h, Option.getD_some]

lemma delay_exponential (h : o.backoff = .exponential) :
    o.delay retry factor = capped o.maxRetryDelay (o.scaled retry factor) := by
  rw [delay, delay?, h, capped]

lemma isDouble_of_scaled_eq {a : ℤ} (h : o.scaled retry factor = finite a) :
    IsDouble a.natAbs := isDouble_of_mul_eq h

lemma delay?_eq_some (o : RetryOptions) (retry : ℕ) (factor : Binary64) :
    o.delay? retry factor = some (o.delay retry factor) := by
  cases hkind : o.backoff with
  | fixed => rw [delay_fixed hkind, delay?, hkind]
  | exponential =>
    rw [delay_exponential hkind, delay?, hkind]
    exact capped?_eq_some fun a => isDouble_of_scaled_eq

lemma delay_le (o : RetryOptions) (retry : ℕ) (factor : Binary64) :
    o.delay retry factor ≤ o.maxRetryDelay := by
  cases hkind : o.backoff with
  | fixed =>
    rw [delay_fixed hkind]
    show (if o.retryDelay ≤ o.maxRetryDelay then o.retryDelay else o.maxRetryDelay) ≤ _
    split_ifs with h
    · exact h
    · exact Nat.le_refl _
  | exponential =>
    rw [delay_exponential hkind]
    exact capped_le fun a => isDouble_of_scaled_eq

/-! ## Jitter -/

/-- The largest factor of jitter. -/
def jitterMax : Binary64 := .ofDecimal false 13 (-1)

/-- A factor from 0.8 to 1.3. -/
def IsJitter (factor : Binary64) : Prop := factor.atLeast jitterMin ∧ jitterMax.atLeast factor

instance : Decidable (IsJitter factor) :=
  inferInstanceAs (Decidable (factor.atLeast jitterMin ∧ _))

/-- The smallest factor in quanta. -/
def lowQuanta : ℕ := roundQuanta (8 * one) 10

/-- The width of the band in quanta. -/
def spanQuanta : ℕ := roundQuanta (5 * one) 10

/-- The largest factor in quanta. -/
def highQuanta : ℕ := roundQuanta (13 * one) 10

lemma isDouble_lowQuanta : IsDouble lowQuanta := isDouble_roundQuanta (by decide)

lemma isDouble_spanQuanta : IsDouble spanQuanta := isDouble_roundQuanta (by decide)

lemma isDouble_highQuanta : IsDouble highQuanta := isDouble_roundQuanta (by decide)

lemma jitter_band :
    jitterMin = finite lowQuanta ∧ jitterSpan = finite spanQuanta ∧
      jitterMax = finite highQuanta := by decide +kernel

/-- Twice the smallest factor is more than the largest.  The smallest is not rounded down, so that
it is 0.8 at least, and the width of the band leads no further than the largest. -/
lemma lowQuanta_bounds :
    8 * one ≤ 10 * lowQuanta ∧ lowQuanta + spanQuanta ≤ highQuanta ∧
      highQuanta ≤ 2 * lowQuanta ∧ highQuanta ≤ 2 * one := by decide +kernel

lemma isJitter_finite_iff {a : ℤ} : IsJitter (finite a) ↔ lowQuanta ≤ a ∧ a ≤ highQuanta := by
  obtain ⟨hmin, -, hmax⟩ := jitter_band
  rw [IsJitter, hmin, hmax, atLeast, atLeast, decide_eq_true_eq, decide_eq_true_eq]

lemma IsJitter.exists_eq_finite (h : IsJitter factor) :
    ∃ q : ℕ, factor = finite q ∧ lowQuanta ≤ q ∧ q ≤ highQuanta := by
  obtain ⟨hmin, -, hmax⟩ := jitter_band
  cases factor with
  | finite a =>
    obtain ⟨hlow, hhigh⟩ := isJitter_finite_iff.mp h
    exact ⟨a.toNat, by rw [Int.toNat_of_nonneg (by omega)], by omega, by omega⟩
  | posInf =>
    rw [IsJitter, hmax] at h
    exact absurd h.2 Bool.false_ne_true
  | nan | negInf =>
    rw [IsJitter, hmin] at h
    exact absurd h.1 Bool.false_ne_true

/-- **What is drawn is such a factor.** -/
theorem isJitter_jitter (hlow : draw.atLeast (finite 0)) (hhigh : (finite one).atLeast draw) :
    IsJitter (jitter draw) := by
  cases draw with
  | finite a =>
    rw [atLeast, decide_eq_true_eq] at hlow hhigh
    lift a to ℕ using hlow
    rw [Nat.cast_le] at hhigh
    have hproduct : a * spanQuanta ≤ spanQuanta * one := by
      rw [Nat.mul_comm]
      exact Nat.mul_le_mul_left spanQuanta hhigh
    have hpart := roundQuanta_le Binary64.one_pos isDouble_spanQuanta hproduct
    obtain ⟨-, hends, -, hlargest⟩ := lowQuanta_bounds
    obtain ⟨hmin, hspan, -⟩ := jitter_band
    have hrange : a * spanQuanta ≤ one * (2 ^ 200 * one) := Nat.mul_le_mul hhigh (by omega)
    have hsum : lowQuanta + roundQuanta (a * spanQuanta) one ≤ 1 * (2 ^ 200 * one) := by omega
    have hjitter : jitter (finite a) =
        finite (roundQuanta (lowQuanta + roundQuanta (a * spanQuanta) one) 1) := by
      rw [jitter, hspan, finite_mul_finite, ofQuotient_eq Binary64.one_pos hrange, hmin,
        finite_add_finite, ofQuotient_eq Nat.one_pos hsum]
    rw [hjitter, isJitter_finite_iff, Nat.cast_le, Nat.cast_le]
    constructor
    · refine le_roundQuanta Nat.one_pos isDouble_lowQuanta ?_
      omega
    · refine roundQuanta_le Nat.one_pos isDouble_highQuanta ?_
      omega
  | nan => exact absurd hlow Bool.false_ne_true
  | posInf => exact absurd hhigh Bool.false_ne_true
  | negInf => exact absurd hlow Bool.false_ne_true

/-! ## One wait and the next -/

lemma scaled_finite (o : RetryOptions) (retry q : ℕ) :
    o.scaled retry (finite q) =
      ofQuotient false (secondsQuanta o.retryDelay * 2 ^ min (retry - 1) 62 * q) one := by
  rw [scaled, ofDuration_mul_twoPow _ (Nat.min_le_right _ _), finite_mul_finite]

/-- **The next wait is no shorter** as long as the power of two grows. -/
lemma delay_le_delay_succ (hkind : o.backoff = .exponential) (hpos : 1 ≤ retry)
    (hretry : retry ≤ 62) (hj : IsJitter j) (hj' : IsJitter j') :
    o.delay retry j ≤ o.delay (retry + 1) j' := by
  obtain ⟨q, rfl, -, hq⟩ := hj.exists_eq_finite
  obtain ⟨q', rfl, hq', -⟩ := hj'.exists_eq_finite
  have hfactors : q ≤ 2 * q' := by
    have := lowQuanta_bounds
    omega
  have hthis : min (retry - 1) 62 = retry - 1 := by omega
  have hnext : min (retry + 1 - 1) 62 = retry - 1 + 1 := by omega
  rw [delay_exponential hkind, delay_exponential hkind, scaled_finite, scaled_finite, hthis, hnext]
  refine capped_ofQuotient_mono ?_
  generalize secondsQuanta o.retryDelay = first
  calc first * 2 ^ (retry - 1) * q ≤ first * 2 ^ (retry - 1) * (2 * q') :=
        Nat.mul_le_mul_left _ hfactors
    _ = first * 2 ^ (retry - 1 + 1) * q' := by ring

/-- From the 63rd retry on each wait is the longest one, unless this is out of reach. -/
lemma delay_eq_maxRetryDelay (hkind : o.backoff = .exponential) (hretry : 63 ≤ retry)
    (hreach : o.maxRetryDelay.nanos ≤ 2 ^ 61 * o.retryDelay.nanos) (hj : IsJitter j) :
    o.delay retry j = o.maxRetryDelay := by
  obtain ⟨q, rfl, hq, -⟩ := hj.exists_eq_finite
  have hlast : min (retry - 1) 62 = 62 := by omega
  rw [delay_exponential hkind, scaled_finite, hlast]
  refine capped_ofQuotient_of_le ?_
  have hlow : 8 * one ≤ 10 * q := lowQuanta_bounds.1.trans (Nat.mul_le_mul_left 10 hq)
  have hlongest := (secondsQuanta_close o.maxRetryDelay).2
  have hfirst := (secondsQuanta_close o.retryDelay).1
  have hreach' := Nat.mul_le_mul_right one hreach
  rw [Nat.mul_assoc] at hreach'
  generalize secondsQuanta o.maxRetryDelay = longest at hlongest ⊢
  generalize secondsQuanta o.retryDelay = first at hfirst ⊢
  have hseconds : 10 * longest ≤ 8 * (first * 2 ^ 62) := by omega
  refine Nat.le_of_mul_le_mul_left (c := 10) ?_ (by decide)
  calc 10 * (longest * one) = 10 * longest * one := by ring
    _ ≤ 8 * (first * 2 ^ 62) * one := Nat.mul_le_mul_right one hseconds
    _ = first * 2 ^ 62 * (8 * one) := by ring
    _ ≤ first * 2 ^ 62 * (10 * q) := Nat.mul_le_mul_left _ hlow
    _ = 10 * (first * 2 ^ 62 * q) := by ring

/-- **The schedule of the waits**, whether zeros have been replaced by defaults or not.  Every wait
is computed without failing, for any retry and any factor, infinite and undefined ones included, and
is at most the longest wait.  A fixed wait is the first one, or the longest if that is less.
Exponential waits do not get shorter from one retry to the next, whichever factors from 0.8 to 1.3
the two have: up to retry 62, and for good if the longest wait is at most 2⁶¹ times the first. -/
theorem delay_schedule (o : RetryOptions) :
    (∀ retry factor, o.delay? retry factor = some (o.delay retry factor) ∧
      o.delay retry factor ≤ o.maxRetryDelay) ∧
    (o.backoff = .fixed →
      ∀ retry factor, o.delay retry factor = min o.retryDelay o.maxRetryDelay) ∧
    (o.backoff = .exponential → ∀ retry, 1 ≤ retry →
      retry ≤ 62 ∨ o.maxRetryDelay.nanos ≤ 2 ^ 61 * o.retryDelay.nanos →
      ∀ j j', IsJitter j → IsJitter j' → o.delay retry j ≤ o.delay (retry + 1) j') := by
  refine ⟨fun retry factor => ⟨delay?_eq_some o retry factor, delay_le o retry factor⟩,
    fun hkind retry factor => delay_fixed hkind, fun hkind retry hpos hretry j j' hj hj' => ?_⟩
  rcases Nat.lt_or_ge 62 retry with hlate | hearly
  · have hreach : o.maxRetryDelay.nanos ≤ 2 ^ 61 * o.retryDelay.nanos := by omega
    rw [delay_eq_maxRetryDelay hkind (by omega) hreach hj']
    exact delay_le o retry j
  · exact delay_le_delay_succ hkind hpos hearly hj hj'

/-- Four seconds at first and two minutes at most. -/
def patient : RetryOptions := unset.withDefaults

/-- The 1.3-fold first wait and the 0.8-fold second one. -/
theorem delay_schedule_patient :
    patient.backoff = .exponential ∧ IsJitter jitterMax ∧ IsJitter jitterMin ∧
      patient.delay 1 jitterMax ≤ patient.delay 2 jitterMin :=
  have hfactors : IsJitter jitterMax ∧ IsJitter jitterMin := by decide +kernel
  ⟨rfl, hfactors.1, hfactors.2,
    (delay_schedule patient).2.2 rfl 1 (by decide) (Or.inl (by decide)) _ _ hfactors.1 hfactors.2⟩

end RetryOptions

end QueueClient
