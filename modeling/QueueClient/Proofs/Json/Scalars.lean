/-
# Texts, numbers and words are read back

What is written of a text, a whole number or one of the three words is read as just that, and what
stands behind it is left (`Reads`).  A text ends by itself, with its second quote; each of its
characters is read back, whether it is written as it is, by a letter or by its number
(`reads_writeChar`).  A number goes on as long as there are digits, so it is read back only in front
of a sign that can stand behind a value (`EndsValue`).
-/
import QueueClient.Json.Reader
import QueueClient.Json.Writer
import QueueClient.Proofs.Text.Numeral

namespace QueueClient.Json

variable {cs rest : List Char} {c : Char} {ps : List TextPart} {v : Json}

/-- A reading function gets `a` from the front of an input and leaves `rest`. -/
def Reads {α : Type} (read : (cs : List Char) → Option (α × Rest cs)) (cs : List Char) (a : α)
    (rest : List Char) : Prop :=
  ∃ h, read cs = some (a, ⟨rest, h⟩)

/-! ## Parts of texts -/

lemma reads_quote (rest : List Char) : Reads textParts ('"' :: rest) [] rest :=
  ⟨by simp, by rw [textParts]⟩

lemma Reads.escape {letter : Char} (h : Reads textParts cs ps rest) (hne : letter ≠ 'u')
    (hlookup : shortEscapes.lookup letter = some c) :
    Reads textParts ('\\' :: letter :: cs) (.char c :: ps) rest := by
  obtain ⟨hlt, heq⟩ := h
  refine ⟨by simp; omega, ?_⟩
  rw [textParts, hlookup]
  · simp only [heq, Option.map_some, Rest.weaken]
  · exact fun _ _ _ _ _ hletter => absurd hletter hne

lemma Reads.unit {n : ℕ} {a b c d : Char} (h : Reads textParts cs ps rest)
    (hn : Text.numeral? 16 [a, b, c, d] = some n) :
    Reads textParts ('\\' :: 'u' :: a :: b :: c :: d :: cs) (.unit n :: ps) rest := by
  obtain ⟨hlt, heq⟩ := h
  refine ⟨by simp; omega, ?_⟩
  rw [textParts, hn]
  simp only [heq, Option.map_some, Rest.weaken]

lemma Reads.plain (h : Reads textParts cs ps rest) (hquote : c ≠ '"') (hslash : c ≠ '\\')
    (hcontrol : ¬ c.toNat < 0x20) : Reads textParts (c :: cs) (.char c :: ps) rest := by
  obtain ⟨hlt, heq⟩ := h
  refine ⟨by simp; omega, ?_⟩
  rw [textParts, if_neg (not_or.mpr ⟨hcontrol, hslash⟩)]
  · simp only [heq, Option.map_some, Rest.weaken]
  · exact fun h => absurd h hquote
  · exact fun _ _ _ _ _ h => absurd h hslash
  · exact fun _ _ h => absurd h hslash

/-- A number below the surrogates stands for a character by itself. -/
lemma assemble_unit {n : ℕ} (h : n < 0xd800) (ps : List TextPart) :
    assemble (.unit n :: ps) = (assemble ps).map (Char.ofNat n :: ·) := by
  have hhigh : ¬ (0xd800 ≤ n ∧ n ≤ 0xdbff) := by omega
  have hlow : ¬ (0xdc00 ≤ n ∧ n ≤ 0xdfff) := by omega
  have hboth : ¬ (0xd800 ≤ n ∧ n ≤ 0xdfff) := by omega
  cases ps with
  | nil => simp only [assemble, if_neg hboth]
  | cons p ps =>
    cases p with
    | char c => simp only [assemble, if_neg hboth]
    | unit m => simp only [assemble, if_neg hhigh, if_neg hlow]

/-! ## Texts -/

/-- An escape that is written for a character is read as that character; the quote and the
backslash have one. -/
lemma escapeLetter?_cases (c : Char) :
    (∃ letter, escapeLetter? c = some letter ∧ letter ≠ 'u' ∧
      shortEscapes.lookup letter = some c) ∨
    (escapeLetter? c = none ∧ c ≠ '"' ∧ c ≠ '\\') := by
  cases h : escapeLetter? c with
  | some letter =>
    refine Or.inl ⟨letter, rfl, ?_⟩
    obtain ⟨l₁, l₂, hl, -⟩ := List.lookup_eq_some_iff.mp h
    have hmem := hl ▸ List.mem_append_right l₁ (List.mem_cons_self (l := l₂))
    simp only [List.mem_cons, Prod.mk.injEq, List.not_mem_nil, or_false] at hmem
    rcases hmem with ⟨rfl, rfl⟩ | ⟨rfl, rfl⟩ | ⟨rfl, rfl⟩ | ⟨rfl, rfl⟩ | ⟨rfl, rfl⟩ | ⟨rfl, rfl⟩ |
      ⟨rfl, rfl⟩ <;> decide
  | none =>
    rw [escapeLetter?, List.lookup_eq_none_iff] at h
    refine Or.inr ⟨rfl, ?_, ?_⟩
    · simpa using h ('"', '"') (by simp)
    · simpa using h ('\\', '\\') (by simp)

/-- The number of a control character in four digits. -/
lemma numeral?_control (h : c.toNat < 0x20) :
    Text.numeral? 16 ['0', '0', (c.toNat / 16).digitChar, (c.toNat % 16).digitChar] =
      some c.toNat := by
  have hzeros : Text.numeral? 16 ['0', '0'] = some 0 := rfl
  have hfirst := Text.numeral?_append_digitChar (by decide) (d := c.toNat / 16) (by omega) hzeros
  have hboth := Text.numeral?_append_digitChar (by decide) (Nat.mod_lt c.toNat (by decide)) hfirst
  rwa [Nat.zero_mul, Nat.zero_add, Nat.div_add_mod'] at hboth

/-- **A character is read back**, however it is written. -/
lemma reads_writeChar (c : Char) (h : Reads textParts cs ps rest) :
    ∃ p, Reads textParts (writeChar c ++ cs) (p :: ps) rest ∧
      ∀ ps, assemble (p :: ps) = (assemble ps).map (c :: ·) := by
  rw [writeChar]
  rcases escapeLetter?_cases c with ⟨letter, heq, hne, hlookup⟩ | ⟨heq, hquote, hslash⟩
  · rw [heq]
    exact ⟨.char c, h.escape hne hlookup, fun ps => by rw [assemble]⟩
  · rw [heq]
    by_cases hcontrol : c.toNat < 0x20
    · simp only [if_pos hcontrol]
      refine ⟨.unit c.toNat, h.unit (numeral?_control hcontrol), fun ps => ?_⟩
      rw [assemble_unit (by omega), Char.ofNat_toNat]
    · simp only [if_neg hcontrol]
      exact ⟨.char c, h.plain hquote hslash hcontrol, fun ps => by rw [assemble]⟩

lemma reads_flatMap_writeChar (rest : List Char) : ∀ cs : List Char,
    ∃ ps, Reads textParts (cs.flatMap writeChar ++ '"' :: rest) ps rest ∧ assemble ps = some cs
  | [] => ⟨[], reads_quote rest, rfl⟩
  | c :: cs => by
    obtain ⟨ps, hreads, hps⟩ := reads_flatMap_writeChar rest cs
    obtain ⟨p, hp, hassemble⟩ := reads_writeChar c hreads
    refine ⟨p :: ps, ?_, ?_⟩
    · rwa [List.flatMap_cons, List.append_assoc]
    · rw [hassemble, hps, Option.map_some]

lemma Reads.text (h : Reads textParts cs ps rest) :
    Reads readText cs ((assemble ps).map String.ofList) rest := by
  obtain ⟨hlt, heq⟩ := h
  refine ⟨hlt, ?_⟩
  rw [readText, heq]
  rfl

/-- **A text is read back** behind its first quote. -/
lemma exists_writeText_eq (s : Option String) :
    ∃ body, writeText s = '"' :: body ∧ ∀ rest, Reads readText (body ++ rest) s rest := by
  cases s with
  | some s =>
    refine ⟨s.toList.flatMap writeChar ++ ['"'], rfl, fun rest => ?_⟩
    obtain ⟨ps, hreads, hps⟩ := reads_flatMap_writeChar rest s.toList
    have hs : (assemble ps).map String.ofList = some s := by
      rw [hps, Option.map_some, String.ofList_toList]
    rw [List.append_assoc, List.singleton_append, ← hs]
    exact hreads.text
  | none =>
    refine ⟨"\\ud800\"".toList, by decide, fun rest => ?_⟩
    exact ((reads_quote rest).unit (a := 'd') (b := '8') (c := '0') (d := '0') rfl).text

/-! ## The end of a value -/

/-- Nothing follows, or a sign that can stand behind a value. -/
def EndsValue (rest : List Char) : Prop := ∀ c ∈ rest.head?, c = ',' ∨ c = ']' ∨ c = '\x7d'

namespace EndsValue

lemma nil : EndsValue [] := by simp [EndsValue]

lemma cons (h : c = ',' ∨ c = ']' ∨ c = '\x7d') (rest : List Char) : EndsValue (c :: rest) := by
  rintro _ ⟨⟩
  exact h

variable (h : EndsValue rest)

include h

lemma not_isDigit : ∀ c ∈ rest.head?, c.isDigit = false := by
  intro c hc
  rcases h c hc with rfl | rfl | rfl <;> decide

lemma takeWhile_eq : rest.takeWhile Char.isDigit = [] := by
  cases rest with
  | nil => rfl
  | cons c rest => rw [List.takeWhile_cons, h.not_isDigit c rfl, if_neg Bool.false_ne_true]

lemma dropWhile_eq : rest.dropWhile Char.isDigit = rest := by
  cases rest with
  | nil => rfl
  | cons c rest => rw [List.dropWhile_cons, h.not_isDigit c rfl, if_neg Bool.false_ne_true]

lemma skipFraction_eq : skipFraction rest = some rest := by
  rw [skipFraction]
  rintro rest rfl
  rcases h '.' rfl with h | h | h <;> exact absurd h (by decide)

lemma skipExponent_eq : skipExponent rest = some rest := by
  cases rest with
  | nil => rfl
  | cons c rest =>
    have hc : ¬ (c == 'e' || c == 'E') = true := by
      rcases h c rfl with rfl | rfl | rfl <;> decide
    unfold skipExponent
    exact if_neg hc

end EndsValue

/-! ## Numbers -/

/-- A sign that a number begins with. -/
def startsNumber (c : Char) : Bool := c == '-' || c.isDigit

lemma ne_of_startsNumber {d : Char} (hc : startsNumber c = true) (hd : startsNumber d = false) :
    c ≠ d := by
  rintro rfl
  exact absurd (hc.symm.trans hd) (by decide)

lemma isDigit_of_mem_toDigits {n : ℕ} (h : c ∈ Nat.toDigits 10 n) : c.isDigit = true :=
  Nat.isDigit_of_mem_toDigits (by decide) (by decide) h

lemma isWhole_toDigits (n : ℕ) : isWhole (Nat.toDigits 10 n) = true := by
  rcases n.eq_zero_or_pos with rfl | hn
  · rfl
  · obtain ⟨d, tail, hpos, hd, heq⟩ := Text.exists_toDigits_eq (show 1 < 10 by decide) hn
    have hne : d.digitChar ≠ '0' := by interval_cases d <;> decide
    rw [heq, isWhole]
    · simpa using hne
    · simp [hne]

lemma exists_toDigits_eq_cons (n : ℕ) :
    ∃ c tail, Nat.toDigits 10 n = c :: tail ∧ c.isDigit = true := by
  obtain ⟨c, tail, heq⟩ := List.exists_cons_of_ne_nil (Nat.toDigits_ne_nil (b := 10) (n := n))
  exact ⟨c, tail, heq, isDigit_of_mem_toDigits (heq ▸ List.mem_cons_self)⟩

lemma exists_writeInt_eq (n : ℤ) : ∃ c tail, writeInt n = c :: tail ∧ startsNumber c = true := by
  rw [writeInt]
  split_ifs
  · exact ⟨'-', _, rfl, rfl⟩
  · obtain ⟨c, tail, heq, hc⟩ := exists_toDigits_eq_cons n.natAbs
    exact ⟨c, tail, heq, by rw [startsNumber, hc, Bool.or_true]⟩

/-- Digits behind a sign or without one, unless they are those of minus zero. -/
lemma readNumber_eq (negative : Bool) {digits : List Char}
    (hsign : (cs.head? == some '-') = negative)
    (hbody : (if negative = true then cs.tail else cs) = digits ++ rest)
    (hdigits : ∀ c ∈ digits, c.isDigit = true) (hwhole : isWhole digits = true)
    (hzero : ¬ (negative = true ∧ Text.decimal digits = 0)) (h : EndsValue rest) :
    readNumber cs = some (.int (if negative = true then -(Text.decimal digits : ℤ)
      else Text.decimal digits), rest) := by
  have htake : (digits ++ rest).takeWhile Char.isDigit = digits := by
    rw [List.takeWhile_append_of_pos hdigits, h.takeWhile_eq, List.append_nil]
  have hdrop : (digits ++ rest).dropWhile Char.isDigit = rest := by
    rw [List.dropWhile_append_of_pos hdigits, h.dropWhile_eq]
  rw [readNumber]
  simp only [hsign, hbody, htake, hdrop, hwhole, h.skipFraction_eq, Option.bind_some,
    h.skipExponent_eq]
  rw [if_neg (by decide), Option.bind_eq_bind, Option.bind_some, if_pos ⟨rfl, hzero⟩]

/-- **A whole number is read back** in front of what ends a value. -/
lemma readNumber_writeInt (n : ℤ) (h : EndsValue rest) :
    readNumber (writeInt n ++ rest) = some (.int n, rest) := by
  have hdigits : ∀ c ∈ Nat.toDigits 10 n.natAbs, c.isDigit = true :=
    fun _ => isDigit_of_mem_toDigits
  have hwhole := isWhole_toDigits n.natAbs
  rw [writeInt]
  rcases lt_or_ge n 0 with hn | hn
  · have hzero : ¬ (true = true ∧ Text.decimal (Nat.toDigits 10 n.natAbs) = 0) := by
      rw [Text.decimal_toDigits]
      omega
    rw [if_pos hn, readNumber_eq true rfl rfl hdigits hwhole hzero h,
      Text.decimal_toDigits, if_pos rfl]
    congr 3
    omega
  · have hsign : ((Nat.toDigits 10 n.natAbs ++ rest).head? == some '-') = false := by
      obtain ⟨c, tail, heq, hc⟩ := exists_toDigits_eq_cons n.natAbs
      have hne : c ≠ '-' := by
        rintro rfl
        exact absurd hc (by decide)
      rw [heq]
      simpa using hne
    rw [if_neg (by omega), readNumber_eq false hsign rfl hdigits hwhole (by simp) h,
      Text.decimal_toDigits, if_neg Bool.false_ne_true]
    congr 3
    omega

/-- The number that is written for what is not whole. -/
lemma readNumber_half (h : EndsValue rest) :
    readNumber ("0.5".toList ++ rest) = some (.real, rest) := by
  have hfraction : skipFraction ('.' :: '5' :: rest) = some rest := by
    have hdrop : ('5' :: rest).dropWhile Char.isDigit = rest := h.dropWhile_eq
    rw [skipFraction, hdrop]
    rfl
  have hless : ¬ (rest.length = ('.' :: '5' :: rest).length ∧
      ¬ (false = true ∧ Text.decimal ['0'] = 0)) := by
    simp only [List.length_cons]
    omega
  show (do
    let rest' ← (skipFraction ('.' :: '5' :: rest)).bind skipExponent
    if rest'.length = ('.' :: '5' :: rest).length ∧
        ¬ (false = true ∧ Text.decimal ['0'] = 0) then
      some (Json.int (Text.decimal ['0']), rest')
    else some (.real, rest')) = _
  rw [hfraction, Option.bind_some, h.skipExponent_eq, Option.bind_eq_bind, Option.bind_some,
    if_neg hless]

/-! ## Words and numbers as values -/

lemma reads_word {w : List Char} (hw : (w, v) ∈ words) (rest : List Char) :
    Reads readScalar (w ++ rest) v rest := by
  have hfind : words.find? (fun w' => w'.1.isPrefixOf (w ++ rest)) = some (w, v) := by
    simp only [words, List.mem_cons, Prod.mk.injEq, List.not_mem_nil, or_false] at hw
    rcases hw with ⟨rfl, rfl⟩ | ⟨rfl, rfl⟩ | ⟨rfl, rfl⟩ <;> rfl
  have hlt : rest.length < (w ++ rest).length := by
    have hne : w ≠ [] := by
      rintro rfl
      revert hw
      simp [words]
    have hpos := List.length_pos_iff.mpr hne
    rw [List.length_append]
    omega
  refine ⟨hlt, ?_⟩
  rw [readScalar, hfind]
  simp only [List.drop_left, dif_pos hlt]

lemma reads_number (hc : startsNumber c = true) (h : readNumber (c :: cs) = some (v, rest))
    (hlt : rest.length < (c :: cs).length) : Reads readScalar (c :: cs) v rest := by
  have hne : ∀ d, startsNumber d = false → d ≠ c := fun d hd => (ne_of_startsNumber hc hd).symm
  have hfind : words.find? (fun w => w.1.isPrefixOf (c :: cs)) = none := by
    simp [words, hne 'n' rfl, hne 't' rfl, hne 'f' rfl]
  refine ⟨hlt, ?_⟩
  rw [readScalar, hfind]
  simp only [h, dif_pos hlt]

end QueueClient.Json
