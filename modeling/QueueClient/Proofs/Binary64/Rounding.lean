/-
# Rounding to doubles

A quotient of natural numbers is rounded to a whole number first (`nearestEven`), and to a double by
rounding it to a multiple of the spacing that doubles have there (`roundQuanta`).  Both keep the
order of quotients (`nearestEven_mono`, `roundQuanta_mono`), and both keep what is of their form
already: a number that its own spacing divides is a double (`IsDouble`) and stays as it is
(`roundQuanta_of_isDouble`).  So no double lies between a number and what it is rounded to
(`roundQuanta_le`, `le_roundQuanta`).  Later proofs work with that, and where they need more, with
the bound on the error (`roundQuanta_error`) and with summands that are too small to count
(`roundQuanta_add_of_lt`).

The spacing changes at powers of two.  There the order is kept because the power itself is a
multiple of both spacings.
-/
import Mathlib.Tactic
import QueueClient.Binary64

namespace QueueClient.Binary64

variable {num den num' den' g q k m e : ℕ}

/-! ## Whole numbers -/

/-- The nearest whole number is at most `k` if the quotient lies below the middle between `k` and
its successor, or on it with `k` even. -/
lemma nearestEven_le_iff (hden : 0 < den) :
    nearestEven num den ≤ k ↔
      2 * num < (2 * k + 1) * den ∨ 2 * num = (2 * k + 1) * den ∧ k % 2 = 0 := by
  have hnum : num / den * den + num % den = num := Nat.div_add_mod' num den
  have hrest : num % den < den := Nat.mod_lt num hden
  have hmiddle : (2 * k + 1) * den = 2 * (k * den) + den := by ring
  rw [nearestEven, hmiddle]
  generalize num / den = q at hnum ⊢
  generalize num % den = r at hnum hrest ⊢
  rcases lt_trichotomy k q with hlt | rfl | hgt
  · -- the quotient lies beyond the next whole number
    have hbelow : k * den + den ≤ q * den := by
      rw [← Nat.succ_mul]
      exact Nat.mul_le_mul_right den hlt
    constructor
    · intro h
      split_ifs at h <;> omega
    · omega
  · split_ifs <;> omega
  · have habove : q * den + den ≤ k * den := by
      rw [← Nat.succ_mul]
      exact Nat.mul_le_mul_right den hgt
    constructor
    · omega
    · intro
      split_ifs <;> omega

/-- A larger quotient has no smaller nearest whole number. -/
lemma nearestEven_mono (hden : 0 < den) (hden' : 0 < den') (h : num * den' ≤ num' * den) :
    nearestEven num den ≤ nearestEven num' den' := by
  have hself := (nearestEven_le_iff hden').mp (le_refl (nearestEven num' den'))
  rw [nearestEven_le_iff hden]
  generalize nearestEven num' den' = k at hself ⊢
  have hscaled : 2 * num * den' ≤ 2 * num' * den := by
    rw [mul_assoc, mul_assoc]
    exact Nat.mul_le_mul_left 2 h
  rcases hself with hlt | ⟨heq, heven⟩
  · left
    refine Nat.lt_of_mul_lt_mul_right (a := den') ?_
    calc 2 * num * den' ≤ 2 * num' * den := hscaled
      _ < (2 * k + 1) * den' * den := Nat.mul_lt_mul_of_pos_right hlt hden
      _ = (2 * k + 1) * den * den' := by ring
  · have hle : 2 * num ≤ (2 * k + 1) * den := by
      refine Nat.le_of_mul_le_mul_right (c := den') ?_ hden'
      calc 2 * num * den' ≤ 2 * num' * den := hscaled
        _ = (2 * k + 1) * den * den' := by rw [heq]; ring
    rcases Nat.lt_or_eq_of_le hle with hlt | heq'
    · exact Or.inl hlt
    · exact Or.inr ⟨heq', heven⟩

lemma nearestEven_mul (hden : 0 < den) (k : ℕ) : nearestEven (k * den) den = k := by
  rw [nearestEven, Nat.mul_div_cancel k hden, Nat.mul_mod_left]
  simp [hden]

lemma le_nearestEven (hden : 0 < den) (h : k * den ≤ num) : k ≤ nearestEven num den :=
  calc k = nearestEven (k * den) den := (nearestEven_mul hden k).symm
    _ ≤ nearestEven num den := nearestEven_mono hden hden (Nat.mul_le_mul_right den h)

lemma nearestEven_le (hden : 0 < den) (h : num ≤ k * den) : nearestEven num den ≤ k :=
  calc nearestEven num den ≤ nearestEven (k * den) den :=
        nearestEven_mono hden hden (Nat.mul_le_mul_right den h)
    _ = k := nearestEven_mul hden k

/-- The error is at most a half. -/
lemma nearestEven_error (num : ℕ) (hden : 0 < den) :
    2 * (nearestEven num den * den) ≤ 2 * num + den ∧
      2 * num ≤ 2 * (nearestEven num den * den) + den := by
  have habove := (nearestEven_le_iff hden).mp (le_refl (nearestEven num den))
  have hbelow : ∀ k, nearestEven num den = k + 1 → ¬nearestEven num den ≤ k := by omega
  have hmiddle : ∀ k, (2 * k + 1) * den = 2 * (k * den) + den := fun k => by ring
  rw [hmiddle] at habove
  constructor
  · cases hk : nearestEven num den with
    | zero => omega
    | succ k =>
      have hgt := hbelow k hk
      rw [nearestEven_le_iff hden, hmiddle] at hgt
      have hsucc : (k + 1) * den = k * den + den := Nat.succ_mul k den
      omega
  · omega

/-! ## The spacing of doubles -/

lemma spacing_eq (q : ℕ) : spacing q = 2 ^ (q.log2 - 52) := rfl

lemma spacing_pos (q : ℕ) : 0 < spacing q := Nat.two_pow_pos _

lemma log2_mono (h : q ≤ g) : q.log2 ≤ g.log2 := by
  rw [Nat.log2_eq_log_two, Nat.log2_eq_log_two]
  exact Nat.log_mono_right h

lemma spacing_dvd_spacing (h : q ≤ g) : spacing q ∣ spacing g :=
  Nat.pow_dvd_pow 2 (Nat.sub_le_sub_right (log2_mono h) 52)

/-- Where doubles are not the whole numbers, they have 53 binary digits. -/
lemma spacing_mul_le (h : 2 ^ 52 ≤ q) : 2 ^ 52 * spacing q ≤ q := by
  have hne : q ≠ 0 := by
    rintro rfl
    exact absurd h (by decide)
  have hlog : 52 ≤ q.log2 := (Nat.le_log2 hne).mpr h
  rw [spacing_eq, ← Nat.pow_add, Nat.add_sub_cancel' hlog]
  exact Nat.log2_self_le hne

lemma lt_mul_spacing (q : ℕ) : q < 2 ^ 53 * spacing q := by
  rw [spacing_eq, ← Nat.pow_add]
  exact lt_of_lt_of_le Nat.lt_log2_self (Nat.pow_le_pow_right (by decide) (by omega))

/-- The spacing is one at the bottom, and the power of two where it begins is 2⁵² spacings. -/
lemma spacing_eq_one_or (q : ℕ) : spacing q = 1 ∨ 2 ^ 52 * spacing q ≤ q := by
  by_cases hlog : q.log2 ≤ 52
  · left
    rw [spacing_eq, Nat.sub_eq_zero_of_le hlog, Nat.pow_zero]
  · right
    refine spacing_mul_le ?_
    by_contra hlt
    have hsmall : q.log2 < 52 ∨ q = 0 := by
      by_cases hq : q = 0
      · exact Or.inr hq
      · exact Or.inl ((Nat.log2_lt hq).mpr (not_le.mp hlt))
    rcases hsmall with h | rfl
    · omega
    · exact hlog (by decide)

/-! ## Doubles -/

/-- So many quanta are a double, the range aside. -/
def IsDouble (q : ℕ) : Prop := spacing q ∣ q

/-- Numbers of 53 binary digits are doubles at any power of two. -/
lemma isDouble_mul_pow (h : m ≤ 2 ^ 53) (e : ℕ) : IsDouble (m * 2 ^ e) := by
  rw [IsDouble, spacing_eq]
  rcases Nat.lt_or_eq_of_le h with hlt | rfl
  · rcases Nat.eq_zero_or_pos m with rfl | hpos
    · rw [Nat.zero_mul]
      exact Nat.dvd_zero _
    · have hne : m * 2 ^ e ≠ 0 := Nat.mul_ne_zero hpos.ne' (Nat.two_pow_pos e).ne'
      have hlog : (m * 2 ^ e).log2 < 53 + e := by
        rw [Nat.log2_lt hne, Nat.pow_add]
        exact Nat.mul_lt_mul_of_pos_right hlt (Nat.two_pow_pos e)
      exact Dvd.dvd.mul_left (Nat.pow_dvd_pow 2 (by omega)) m
  · rw [← Nat.pow_add, Nat.log2_two_pow]
    exact Nat.pow_dvd_pow 2 (by omega)

/-- Rounding stays on its side of each multiple of the spacing. -/
lemma roundQuanta_le_of_dvd (hden : 0 < den) (hg : spacing (num / den) ∣ g) (h : num ≤ g * den) :
    roundQuanta num den ≤ g := by
  obtain ⟨c, rfl⟩ := hg
  rw [roundQuanta, Nat.mul_comm (spacing (num / den)) c]
  refine Nat.mul_le_mul_right _ (nearestEven_le (Nat.mul_pos hden (spacing_pos _)) ?_)
  calc num ≤ spacing (num / den) * c * den := h
    _ = c * (den * spacing (num / den)) := by ring

lemma le_roundQuanta_of_dvd (hden : 0 < den) (hg : spacing (num / den) ∣ g) (h : g * den ≤ num) :
    g ≤ roundQuanta num den := by
  obtain ⟨c, rfl⟩ := hg
  rw [roundQuanta, Nat.mul_comm (spacing (num / den)) c]
  refine Nat.mul_le_mul_right _ (le_nearestEven (Nat.mul_pos hden (spacing_pos _)) ?_)
  calc c * (den * spacing (num / den)) = spacing (num / den) * c * den := by ring
    _ ≤ num := h

/-- **A double is rounded to itself.** -/
lemma roundQuanta_of_isDouble (hden : 0 < den) (hg : IsDouble g) :
    roundQuanta (g * den) den = g := by
  have hquotient : g * den / den = g := Nat.mul_div_cancel g hden
  have hspacing : spacing (g * den / den) ∣ g := by rwa [hquotient]
  exact le_antisymm (roundQuanta_le_of_dvd hden hspacing le_rfl)
    (le_roundQuanta_of_dvd hden hspacing le_rfl)

lemma div_le_div_of_mul_le (hden : 0 < den) (hden' : 0 < den') (h : num * den' ≤ num' * den) :
    num / den ≤ num' / den' := by
  rw [Nat.le_div_iff_mul_le hden']
  refine Nat.le_of_mul_le_mul_right (c := den) ?_ hden
  calc num / den * den' * den = num / den * den * den' := by ring
    _ ≤ num * den' := Nat.mul_le_mul_right den' (Nat.div_mul_le_self num den)
    _ ≤ num' * den := h

/-- **Rounding keeps the order.** -/
theorem roundQuanta_mono (hden : 0 < den) (hden' : 0 < den') (h : num * den' ≤ num' * den) :
    roundQuanta num den ≤ roundQuanta num' den' := by
  have hquotients := div_le_div_of_mul_le hden hden' h
  have hdvd := spacing_dvd_spacing hquotients
  rcases Nat.lt_or_eq_of_le (Nat.le_of_dvd (spacing_pos _) hdvd) with hlt | heq
  · -- between the two lies the power of two at which the larger spacing begins
    have hbegin : 2 ^ 52 * spacing (num' / den') ≤ num' / den' := by
      rcases spacing_eq_one_or (num' / den') with hone | hbegin
      · have := spacing_pos (num / den)
        omega
      · exact hbegin
    have hend : 2 ^ 53 * spacing (num / den) ≤ 2 ^ 52 * spacing (num' / den') := by
      obtain ⟨c, hc⟩ := hdvd
      have htwo : 2 ≤ c := by
        by_contra hsmall
        have hle : c ≤ 1 := by omega
        have := Nat.mul_le_mul_left (spacing (num / den)) hle
        omega
      have := Nat.mul_le_mul_left (spacing (num / den)) htwo
      omega
    have hbelow : num ≤ 2 ^ 52 * spacing (num' / den') * den := by
      have hnum : num < 2 ^ 53 * spacing (num / den) * den :=
        (Nat.div_lt_iff_lt_mul hden).mp (lt_mul_spacing (num / den))
      exact hnum.le.trans (Nat.mul_le_mul_right den hend)
    have habove : 2 ^ 52 * spacing (num' / den') * den' ≤ num' :=
      (Nat.le_div_iff_mul_le hden').mp hbegin
    exact (roundQuanta_le_of_dvd hden (hdvd.mul_left _) hbelow).trans
      (le_roundQuanta_of_dvd hden' (Nat.dvd_mul_left _ _) habove)
  · rw [roundQuanta, roundQuanta, heq]
    refine Nat.mul_le_mul_right _ (nearestEven_mono (Nat.mul_pos hden (spacing_pos _))
      (Nat.mul_pos hden' (spacing_pos _)) ?_)
    rw [← Nat.mul_assoc, ← Nat.mul_assoc]
    exact Nat.mul_le_mul_right _ h

/-- **No double lies between a number and what it is rounded to.** -/
lemma roundQuanta_le (hden : 0 < den) (hg : IsDouble g) (h : num ≤ g * den) :
    roundQuanta num den ≤ g :=
  calc roundQuanta num den ≤ roundQuanta (g * den) den :=
        roundQuanta_mono hden hden (Nat.mul_le_mul_right den h)
    _ = g := roundQuanta_of_isDouble hden hg

lemma le_roundQuanta (hden : 0 < den) (hg : IsDouble g) (h : g * den ≤ num) :
    g ≤ roundQuanta num den :=
  calc g = roundQuanta (g * den) den := (roundQuanta_of_isDouble hden hg).symm
    _ ≤ roundQuanta num den := roundQuanta_mono hden hden (Nat.mul_le_mul_right den h)

/-- What is rounded is a double. -/
lemma isDouble_roundQuanta (hden : 0 < den) : IsDouble (roundQuanta num den) := by
  have hlt : num < 2 ^ 53 * spacing (num / den) * den :=
    (Nat.div_lt_iff_lt_mul hden).mp (lt_mul_spacing (num / den))
  have hle : nearestEven num (den * spacing (num / den)) ≤ 2 ^ 53 := by
    refine nearestEven_le (Nat.mul_pos hden (spacing_pos _)) (hlt.le.trans (le_of_eq ?_))
    ring
  rw [roundQuanta]
  exact isDouble_mul_pow hle _

/-- The error is at most half the spacing. -/
lemma roundQuanta_error (num : ℕ) (hden : 0 < den) :
    2 * (roundQuanta num den * den) ≤ 2 * num + den * spacing (num / den) ∧
      2 * num ≤ 2 * (roundQuanta num den * den) + den * spacing (num / den) := by
  have herror := nearestEven_error num (Nat.mul_pos hden (spacing_pos (num / den)))
  have hregroup : nearestEven num (den * spacing (num / den)) * (den * spacing (num / den)) =
      roundQuanta num den * den := by
    rw [roundQuanta]
    ring
  rwa [hregroup] at herror

/-- The spacing stays the same up to the next double. -/
lemma spacing_add_of_lt (hg : IsDouble g) (h : q < spacing g) : spacing (g + q) = spacing g := by
  by_cases hlog : g.log2 ≤ 52
  · have hone : spacing g = 1 := by rw [spacing_eq, Nat.sub_eq_zero_of_le hlog, Nat.pow_zero]
    obtain rfl : q = 0 := by omega
    rfl
  · have hne : g ≠ 0 := by
      rintro rfl
      exact hlog (by decide)
    have hend : 2 ^ (g.log2 + 1) = 2 ^ 53 * spacing g := by
      rw [spacing_eq, ← Nat.pow_add]
      congr 1
      omega
    -- the power of two at which the spacing changes is a double too
    have hnext : g + spacing g ≤ 2 ^ (g.log2 + 1) := by
      obtain ⟨c, hc⟩ := hg
      have hlt : spacing g * c < spacing g * 2 ^ 53 := by
        rw [← hc, Nat.mul_comm]
        exact lt_mul_spacing g
      have hsucc : spacing g * (c + 1) ≤ spacing g * 2 ^ 53 :=
        Nat.mul_le_mul_left _ (Nat.lt_of_mul_lt_mul_left hlt)
      rw [hend, Nat.mul_comm (2 ^ 53)]
      calc g + spacing g = spacing g * (c + 1) := by rw [Nat.mul_succ, ← hc]
        _ ≤ spacing g * 2 ^ 53 := hsucc
    have hsame : (g + q).log2 = g.log2 := by
      rw [Nat.log2_eq_iff (by omega)]
      have := Nat.log2_self_le hne
      omega
    rw [spacing_eq, hsame, spacing_eq]

/-- What is less than half the spacing is lost when it is added to a double. -/
lemma roundQuanta_add_of_lt (hg : IsDouble g) (h : 2 * q < spacing g) :
    roundQuanta (g + q) 1 = g := by
  have hspacing : spacing ((g + q) / 1) = spacing g := by
    rw [Nat.div_one]
    exact spacing_add_of_lt hg (by omega)
  rw [roundQuanta, hspacing]
  obtain ⟨c, hc⟩ := hg
  have hround : nearestEven (g + q) (1 * spacing g) = c := by
    refine le_antisymm ?_ (le_nearestEven (by omega) (by rw [Nat.one_mul, Nat.mul_comm]; omega))
    rw [nearestEven_le_iff (by omega)]
    have hmiddle : (2 * c + 1) * (1 * spacing g) = 2 * (spacing g * c) + spacing g := by ring
    left
    omega
  rw [hround, Nat.mul_comm]
  exact hc.symm

end QueueClient.Binary64
