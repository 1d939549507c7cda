/-
# Digits that are read back

What is written of a number in the digits of a base, up to sixteen, is read as that number, also
behind zeros; without them the first digit is not zero, unless it is the only one.
-/
import Mathlib.Tactic
import QueueClient.Text.Numeral

namespace QueueClient.Text

variable {base d n : ℕ} {digits : List Char}

lemma digitValue?_digitChar (hd : d < 16) : digitValue? d.digitChar = some d := by
  interval_cases d <;> rfl

lemma numeral?_append_digitChar (hbase : base ≤ 16) (hd : d < base)
    (hn : numeral? base digits = some n) :
    numeral? base (digits ++ [d.digitChar]) = some (n * base + d) := by
  rw [numeral?] at hn
  rw [numeral?, List.foldlM_append, hn]
  simp [digitValue?_digitChar (hd.trans_le hbase), hd]

/-- **What is written in digits is read back.** -/
lemma numeral?_toDigits (hlow : 1 < base) (hbase : base ≤ 16) (n : ℕ) :
    numeral? base (Nat.toDigits base n) = some n := by
  induction n using Nat.strong_induction_on with
  | _ n ih =>
    rcases lt_or_ge n base with hn | hn
    · rw [Nat.toDigits_of_lt_base hn]
      simpa using numeral?_append_digitChar hbase hn (numeral?_nil base)
    · have hless : n / base < n := Nat.div_lt_self (by omega) hlow
      rw [Nat.toDigits_of_base_le hlow hn,
        numeral?_append_digitChar hbase (Nat.mod_lt n (by omega)) (ih _ hless), Nat.div_add_mod']

lemma decimal_toDigits (n : ℕ) : decimal (Nat.toDigits 10 n) = n := by
  rw [decimal, numeral?_toDigits (by decide) (by decide), Option.getD_some]

/-- Zeros in front make no difference. -/
lemma numeral?_zeros (hbase : 0 < base) (k : ℕ) (digits : List Char) :
    numeral? base (List.replicate k '0' ++ digits) = numeral? base digits := by
  induction k with
  | zero => rfl
  | succ k ih =>
    have hzero : digitValue? '0' = some 0 := rfl
    rw [← ih, List.replicate_succ, List.cons_append, numeral?, List.foldlM_cons]
    simp [hzero, hbase, numeral?]

/-- No zeros are written in front. -/
lemma exists_toDigits_eq (hlow : 1 < base) (hn : 0 < n) :
    ∃ d tail, 0 < d ∧ d < base ∧ Nat.toDigits base n = d.digitChar :: tail := by
  induction n using Nat.strong_induction_on with
  | _ n ih =>
    rcases lt_or_ge n base with hlt | hge
    · exact ⟨n, [], hn, hlt, Nat.toDigits_of_lt_base hlt⟩
    · have hless : n / base < n := Nat.div_lt_self (by omega) hlow
      obtain ⟨d, tail, hpos, hd, htail⟩ := ih _ hless (Nat.div_pos hge (by omega))
      refine ⟨d, tail ++ [(n % base).digitChar], hpos, hd, ?_⟩
      rw [Nat.toDigits_of_base_le hlow hge, htail, List.cons_append]

end QueueClient.Text
