/-
# The normal form of retry options

In retry options zero stands for a default, and a first wait above the longest one for the longest.
Options in which nothing stands for anything else are normal (`IsNormal`).  No default is zero, and
the cut comes after the defaults, at the longest wait that is in force; so the effective options are
normal whatever is given (`isNormal_withDefaults`).  Where options are normal neither step applies
(`IsNormal.withDefaults_eq`).  The laws of a normal form follow from these two.
-/
import Mathlib.Tactic
import QueueClient.Retry.Stage

namespace QueueClient

namespace Duration

variable {a b : Duration}

lemma isZero_iff : a.isZero = true ↔ a = zero := by
  rw [isZero, beq_iff_eq, Duration.ext_iff]
  rfl

lemma min_of_le (h : a ≤ b) : min a b = a := if_pos h

lemma min_of_lt (h : b < a) : min a b = b := if_neg (Nat.not_le.mpr h)

/-- Which of two durations is the smaller one. -/
lemma min_cases (a b : Duration) : (a ≤ b ∧ min a b = a) ∨ (b < a ∧ min a b = b) := by
  rcases le_or_gt a.nanos b.nanos with h | h
  · exact Or.inl ⟨h, min_of_le h⟩
  · exact Or.inr ⟨h, min_of_lt h⟩

end Duration

namespace RetryOptions

variable {o : RetryOptions} {d default : Duration}

/-! ## Durations with a default -/

lemma orDefault_zero : orDefault .zero default = default := rfl

lemma orDefault_of_ne (h : d ≠ .zero) : orDefault d default = d :=
  if_neg fun hzero => h (Duration.isZero_iff.mp hzero)

lemma orDefault_ne_zero (h : default ≠ .zero) : orDefault d default ≠ .zero := by
  by_cases hd : d = .zero
  · rwa [hd, orDefault_zero]
  · rwa [orDefault_of_ne hd]

/-! ## Normal options -/

/-- Options that stand for themselves: nothing is zero, and the first wait is not above the longest
one. -/
structure IsNormal (o : RetryOptions) : Prop where
  one_le_maxTries : 1 ≤ o.maxTries
  tryTimeout_ne : o.tryTimeout ≠ .zero
  retryDelay_ne : o.retryDelay ≠ .zero
  maxRetryDelay_ne : o.maxRetryDelay ≠ .zero
  retryDelay_le : o.retryDelay ≤ o.maxRetryDelay

/-- **The effective options are normal.** -/
lemma isNormal_withDefaults (o : RetryOptions) : o.withDefaults.IsNormal := by
  have hlongest : o.withDefaults.maxRetryDelay ≠ .zero := orDefault_ne_zero (by decide)
  have hfirst : orDefault o.retryDelay (defaultRetryDelay o.backoff) ≠ .zero :=
    orDefault_ne_zero (by cases o.backoff <;> decide)
  -- the first wait in force is the smaller of these two
  have hmin := Duration.min_cases (orDefault o.retryDelay (defaultRetryDelay o.backoff))
    o.withDefaults.maxRetryDelay
  refine ⟨?_, orDefault_ne_zero (by decide), ?_, hlongest, ?_⟩
  · show 1 ≤ if o.maxTries = 0 then defaultMaxTries else o.maxTries
    split_ifs with hzero
    · decide
    · rw [UInt32.le_iff_toNat_le]
      exact Nat.pos_of_ne_zero fun h => hzero (UInt32.toNat_inj.mp h)
  · rcases hmin with ⟨-, heq⟩ | ⟨-, heq⟩
    · exact fun h => hfirst (heq.symm.trans h)
    · exact fun h => hlongest (heq.symm.trans h)
  · show min _ _ ≤ o.withDefaults.maxRetryDelay
    rcases hmin with ⟨hle, heq⟩ | ⟨-, heq⟩
    · exact heq.symm ▸ hle
    · exact heq.symm ▸ Nat.le_refl _

lemma IsNormal.maxTries_ne (h : o.IsNormal) : o.maxTries ≠ 0 := by
  intro hzero
  have hpos := h.one_le_maxTries
  rw [hzero] at hpos
  exact absurd hpos (by decide)

/-! ## What is kept -/

/-- What `o` says is kept in `e`, except that the first wait is cut off at the longest wait of `e`;
the same cut is made in a first wait that is left to the default. -/
structure Keeps (o e : RetryOptions) : Prop where
  backoff : e.backoff = o.backoff
  maxTries : o.maxTries ≠ 0 → e.maxTries = o.maxTries
  tryTimeout : o.tryTimeout ≠ .zero → e.tryTimeout = o.tryTimeout
  maxRetryDelay : o.maxRetryDelay ≠ .zero → e.maxRetryDelay = o.maxRetryDelay
  retryDelay : o.retryDelay ≠ .zero → o.retryDelay ≤ e.maxRetryDelay → e.retryDelay = o.retryDelay
  retryDelay_cut : e.maxRetryDelay < o.retryDelay → e.retryDelay = e.maxRetryDelay
  default_cut : o.retryDelay = .zero → e.maxRetryDelay < defaultRetryDelay o.backoff →
    e.retryDelay = e.maxRetryDelay

lemma keeps_withDefaults (o : RetryOptions) : o.Keeps o.withDefaults where
  backoff := rfl
  maxTries h := if_neg h
  tryTimeout := orDefault_of_ne
  maxRetryDelay := orDefault_of_ne
  retryDelay h hle := by
    show min (orDefault o.retryDelay _) _ = _
    rw [orDefault_of_ne h]
    exact Duration.min_of_le hle
  retryDelay_cut hlt := by
    have h : o.retryDelay ≠ .zero := by
      intro hzero
      rw [hzero] at hlt
      exact absurd hlt (Nat.not_lt_zero _)
    show min (orDefault o.retryDelay _) _ = _
    rw [orDefault_of_ne h]
    exact Duration.min_of_lt hlt
  default_cut hzero hlt := by
    show min (orDefault o.retryDelay _) _ = _
    rw [hzero, orDefault_zero]
    exact Duration.min_of_lt hlt

/-- **Normal options are their own effective options.** -/
lemma IsNormal.withDefaults_eq (h : o.IsNormal) : o.withDefaults = o := by
  have hkeeps := keeps_withDefaults o
  have hlongest := hkeeps.maxRetryDelay h.maxRetryDelay_ne
  have hfirst := hkeeps.retryDelay h.retryDelay_ne (hlongest.symm ▸ h.retryDelay_le)
  calc o.withDefaults
      = ⟨o.withDefaults.backoff, o.withDefaults.maxTries, o.withDefaults.tryTimeout,
          o.withDefaults.retryDelay, o.withDefaults.maxRetryDelay⟩ := rfl
    _ = ⟨o.backoff, o.maxTries, o.tryTimeout, o.retryDelay, o.maxRetryDelay⟩ := by
      rw [hkeeps.backoff, hkeeps.maxTries h.maxTries_ne, hkeeps.tryTimeout h.tryTimeout_ne, hfirst,
        hlongest]

/-- **Effective options are a normal form** of the options that they are made of: they are always
normal, are made once and for all, and differ from what is given only if that is not normal, in
nothing but its zeros and a first wait above the longest. -/
theorem withDefaults_normal_form (o : RetryOptions) :
    o.withDefaults.IsNormal ∧ o.withDefaults.withDefaults = o.withDefaults ∧
      (o.withDefaults = o ↔ o.IsNormal) ∧ o.Keeps o.withDefaults := by
  have hnormal := isNormal_withDefaults o
  refine ⟨hnormal, hnormal.withDefaults_eq, ⟨fun h => ?_, IsNormal.withDefaults_eq⟩,
    keeps_withDefaults o⟩
  rwa [h] at hnormal

/-- A longest wait below the default of the first one cuts that default as well. -/
example : (withDefaults ⟨.fixed, 0, .zero, .zero, .ofSecs 2⟩).retryDelay = .ofSecs 2 := by decide

end RetryOptions

/-- A policy is the same for options and for what they amount to. -/
lemma Retry.policy_withDefaults (o : RetryOptions) : policy o.withDefaults = policy o := by
  rw [policy, (RetryOptions.isNormal_withDefaults o).withDefaults_eq]
  rfl

end QueueClient
