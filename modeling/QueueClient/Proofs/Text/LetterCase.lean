/-
# Letter case

Texts that differ in the case of their ASCII letters have the same lower case
(`toLowercase_asciiLowercase`): the sigma apart, each character is put into lower case by itself,
and what decides the form of a sigma is whether its neighbours are letters, not whether they are
capitals.

The same goes for the name of a parameter that is still to be read: with the letters of the raw text
in another case, the name that is read differs in letter case and in nothing else
(`asciiLowercase_decodePart_lower`).  Digits of escapes may be capital or small letters, and
the bytes of a letter are no part of any character beyond ASCII.
-/
import QueueClient.Proofs.Url.Masking

namespace QueueClient

/-! ## Lower case -/

namespace Text

variable {c : Char} {s t : String}

/-- What holds of each character beside itself and of the capitals of ASCII beside their small
letters holds of all characters beside their small letters. -/
lemma toLower_cases {p : Char → Char → Prop} (hself : ∀ c, p c c)
    (hcapital : ∀ n < 26, p (Char.ofNat (97 + n)) (Char.ofNat (65 + n))) (c : Char) :
    p c.toLower c := by
  by_cases hc : 65 ≤ c.toNat ∧ c.toNat ≤ 90
  · have hletters : ∀ n < 26, (Char.ofNat (65 + n)).toLower = Char.ofNat (97 + n) := by decide
    have hlt : c.toNat - 65 < 26 := by omega
    have h := hcapital (c.toNat - 65) hlt
    rw [← hletters _ hlt, Nat.add_sub_cancel' hc.1, Char.ofNat_toNat] at h
    exact h
  · have hkept : c.toLower = c := dif_neg fun hcapital => hc hcapital
    rw [hkept]
    exact hself c

/-- Nothing that lower case looks at tells a capital from its small letter. -/
lemma toLower_alike (c : Char) :
    isCased c.toLower = isCased c ∧ isCaseIgnorable c.toLower = isCaseIgnorable c ∧
      lowerChar c.toLower = lowerChar c ∧ (c.toLower = 'Σ' ↔ c = 'Σ') :=
  toLower_cases (p := fun d c => isCased d = isCased c ∧ isCaseIgnorable d = isCaseIgnorable c ∧
    lowerChar d = lowerChar c ∧ (d = 'Σ' ↔ c = 'Σ'))
    (fun _ => ⟨rfl, rfl, rfl, Iff.rfl⟩) (by decide +kernel) c

lemma meetsCased_map_toLower (l : List Char) :
    meetsCased (l.map Char.toLower) = meetsCased l := by
  have hskip : isCaseIgnorable ∘ Char.toLower = isCaseIgnorable :=
    funext fun c => (toLower_alike c).2.1
  rw [meetsCased, meetsCased, List.dropWhile_map, hskip]
  cases l.dropWhile isCaseIgnorable with
  | nil => rfl
  | cons c rest => exact (toLower_alike c).1

lemma lowerAfter_map_toLower (before l : List Char) :
    lowerAfter (before.map Char.toLower) (l.map Char.toLower) = lowerAfter before l := by
  induction l generalizing before with
  | nil => rfl
  | cons c l ih =>
    have hrest := ih (c :: before)
    rw [List.map_cons] at hrest
    obtain ⟨-, -, hchar, hsigma⟩ := toLower_alike c
    rw [List.map_cons, lowerAfter, lowerAfter, hrest, meetsCased_map_toLower,
      meetsCased_map_toLower, hchar]
    simp only [hsigma]

/-- **The lower case of a text does not depend on the case of its ASCII letters.** -/
lemma toLowercase_asciiLowercase (s : String) : toLowercase (asciiLowercase s) = toLowercase s := by
  rw [toLowercase, asciiLowercase, String.toList_ofList, toLowercase]
  exact congrArg String.ofList (lowerAfter_map_toLower [] s.toList)

lemma toLowercase_congr (h : asciiLowercase s = asciiLowercase t) :
    toLowercase s = toLowercase t := by
  rw [← toLowercase_asciiLowercase s, h, toLowercase_asciiLowercase]

end Text

/-! ## Bytes -/

/-- A byte with the small letter for an ASCII capital. -/
def lowerByte (b : UInt8) : UInt8 := if 0x41 ≤ b && b ≤ 0x5a then b + 0x20 else b

/-- A statement about one byte is one about the numbers below 256. -/
lemma forall_byte {p : UInt8 → Prop} (h : ∀ n < 256, p (UInt8.ofNat n)) (b : UInt8) : p b := by
  have hb := h b.toNat b.toNat_lt
  rwa [UInt8.ofNat_toNat] at hb

/-- The bytes beyond ASCII stay, escapes are read in either case, and what a byte stands for in a
text differs in letter case only. -/
lemma lowerByte_alike (b : UInt8) :
    lowerByte (lowerByte b) = lowerByte b ∧ (0x80 ≤ b → lowerByte b = b) ∧
      (lowerByte b = 0x25 ↔ b = 0x25) ∧
      Percent.byteValue? (lowerByte b) = Percent.byteValue? b ∧
      Utf8.isContinuation (lowerByte b) = Utf8.isContinuation b ∧
      (b < 0x80 → lowerByte b < 0x80 ∧
        (Char.ofNat (lowerByte b).toNat).toLower = (Char.ofNat b.toNat).toLower) := by
  revert b
  refine forall_byte ?_
  decide +kernel

lemma lowerByte_lowerByte (b : UInt8) : lowerByte (lowerByte b) = lowerByte b :=
  (lowerByte_alike b).1

lemma lowerByte_of_le {b : UInt8} (h : 0x80 ≤ b) : lowerByte b = b := (lowerByte_alike b).2.1 h

/-! ### Escapes -/

namespace Percent

lemma escape?_lowerByte (b h l : UInt8) :
    escape? (lowerByte b) (lowerByte h) (lowerByte l) = escape? b h l := by
  have hpercent : lowerByte b = 0x25 ↔ b = 0x25 := (lowerByte_alike b).2.2.1
  have hvalue : ∀ c, byteValue? (lowerByte c) = byteValue? c := fun c =>
    (lowerByte_alike c).2.2.2.1
  simp only [escape?, hpercent, hvalue]

/-- What is decoded differs in letter case only. -/
lemma map_lowerByte_decode (bytes : List UInt8) :
    (decode (bytes.map lowerByte)).map lowerByte = (decode bytes).map lowerByte := by
  fun_induction decode bytes with
  | case1 b h l rest x hescape ih =>
    rw [List.map_cons, List.map_cons, List.map_cons, decode, escape?_lowerByte, hescape]
    simp only [List.map_cons, ih]
  | case2 b h l rest hescape ih =>
    rw [List.map_cons, List.map_cons] at ih
    rw [List.map_cons, List.map_cons, List.map_cons, decode, escape?_lowerByte, hescape]
    simp only [List.map_cons, ih, lowerByte_lowerByte]
  | case3 short hshort =>
    have hself : decode (short.map lowerByte) = short.map lowerByte := by
      rcases short with - | ⟨b, - | ⟨h, - | ⟨l, rest⟩⟩⟩
      · rfl
      · rfl
      · rfl
      · exact absurd rfl (hshort b h l rest)
    rw [hself, List.map_map]
    exact List.map_congr_left fun b _ => lowerByte_lowerByte b

end Percent

/-! ### Characters -/

namespace Utf8

lemma isContinuation_lowerByte (b : UInt8) : isContinuation (lowerByte b) = isContinuation b :=
  (lowerByte_alike b).2.2.2.2.1

/-- A byte that continues a character is no letter. -/
lemma lowerByte_of_isContinuation {b : UInt8} (h : isContinuation b = true) : lowerByte b = b := by
  rw [isContinuation, Bool.and_eq_true, decide_eq_true_iff] at h
  exact lowerByte_of_le h.1

lemma isSecond_lowerByte (b c : UInt8) : isSecond b (lowerByte c) = isSecond b c := by
  cases hc : isContinuation c with
  | true => rw [lowerByte_of_isContinuation hc]
  | false => rw [isSecond, isSecond, isContinuation_lowerByte, hc, Bool.false_and, Bool.false_and]

lemma isContinuation_of_isSecond {b c : UInt8} (h : isSecond b c = true) :
    isContinuation c = true := by
  rw [isSecond, Bool.and_eq_true] at h
  exact h.1

/-- Behind its first byte a character has no letters. -/
lemma first_map_lowerByte (b : UInt8) (rest : List UInt8) :
    first b (rest.map lowerByte) = first b rest := by
  have hsecond : ∀ c, isSecond b c = true → lowerByte c = c := fun c hc =>
    lowerByte_of_isContinuation (isContinuation_of_isSecond hc)
  have hlater : ∀ d, isContinuation d = true → lowerByte d = d := fun d hd =>
    lowerByte_of_isContinuation hd
  unfold first
  generalize width b = w
  rcases w with - | - | - | - | - | w
  -- the widths of two, three and four bytes look at what follows
  case succ.succ.zero =>
    rcases rest with - | ⟨c, rest⟩
    · rfl
    · by_cases hc : isSecond b c = true
      · simp [hc, hsecond c hc]
      · simp [isSecond_lowerByte, hc]
  case succ.succ.succ.zero =>
    rcases rest with - | ⟨c, - | ⟨d, rest⟩⟩
    · rfl
    · simp [isSecond_lowerByte]
    · by_cases hc : isSecond b c = true <;> by_cases hd : isContinuation d = true <;>
        simp_all [isSecond_lowerByte, isContinuation_lowerByte]
  case succ.succ.succ.succ.zero =>
    rcases rest with - | ⟨c, - | ⟨d, - | ⟨e, rest⟩⟩⟩
    · rfl
    · simp [isSecond_lowerByte]
    · simp [isSecond_lowerByte, isContinuation_lowerByte]
    · by_cases hc : isSecond b c = true <;> by_cases hd : isContinuation d = true <;>
        by_cases he : isContinuation e = true <;>
        simp_all [isSecond_lowerByte, isContinuation_lowerByte]
  all_goals rfl

/-- The characters differ in letter case only. -/
lemma map_toLower_scan (bytes : List UInt8) :
    (scan (bytes.map lowerByte)).map (Option.map Char.toLower) =
      (scan bytes).map (Option.map Char.toLower) := by
  induction bytes using scan.induct with
  | case1 => rfl
  | case2 b rest ih =>
    have hfirst : (first (lowerByte b) (rest.map lowerByte)).2 = (first b rest).2 ∧
        (first (lowerByte b) (rest.map lowerByte)).1.map Char.toLower =
          (first b rest).1.map Char.toLower := by
      rw [first_map_lowerByte]
      by_cases hb : b < 0x80
      · obtain ⟨hlt, hchar⟩ := (lowerByte_alike b).2.2.2.2.2 hb
        rw [first_of_lt hlt, first_of_lt hb]
        exact ⟨rfl, congrArg some hchar⟩
      · rw [lowerByte_of_le (UInt8.not_lt.mp hb)]
        exact ⟨rfl, rfl⟩
    rw [List.map_cons, scan, scan, List.map_cons, List.map_cons, hfirst.1, hfirst.2,
      ← List.map_drop, ih]

lemma asciiLowercase_decodeLossy (bytes : List UInt8) :
    Text.asciiLowercase (decodeLossy (bytes.map lowerByte)) =
      Text.asciiLowercase (decodeLossy bytes) := by
  have hchars : ∀ l : List (Option Char), (l.map (·.getD '\ufffd')).map Char.toLower =
      (l.map (Option.map Char.toLower)).map (·.getD '\ufffd') := by
    intro l
    rw [List.map_map, List.map_map]
    refine List.map_congr_left fun c _ => ?_
    cases c with
    | none => decide
    | some c => rfl
  rw [decodeLossy, decodeLossy, Text.asciiLowercase, Text.asciiLowercase, String.toList_ofList,
    String.toList_ofList, hchars, hchars, map_toLower_scan]

end Utf8

/-! ## Names -/

namespace Query

/-- The bytes of a name or value, with spaces for the plus signs. -/
def spacedBytes (part : List Char) : List UInt8 :=
  (part.flatMap String.utf8EncodeChar).map fun b => if b = 0x2b then 0x20 else b

lemma map_lowerByte_spacedBytes (part : List Char) :
    (spacedBytes (part.map Char.toLower)).map lowerByte = (spacedBytes part).map lowerByte := by
  rw [spacedBytes, spacedBytes, List.map_map, List.map_map, List.map_flatMap, List.map_flatMap,
    List.flatMap_map]
  refine List.flatMap_congr fun c _ => ?_
  exact Text.toLower_cases
    (p := fun d c => (String.utf8EncodeChar d).map
        (lowerByte ∘ fun b => if b = 0x2b then 0x20 else b) =
      (String.utf8EncodeChar c).map (lowerByte ∘ fun b => if b = 0x2b then 0x20 else b))
    (fun _ => rfl) (by decide +kernel) c

/-- **What is read of a text differs in letter case only** if the text does. -/
lemma asciiLowercase_decodePart_lower (part : List Char) :
    Text.asciiLowercase (decodePart (part.map Char.toLower)) =
      Text.asciiLowercase (decodePart part) := by
  have hbytes : (Percent.decode (spacedBytes (part.map Char.toLower))).map lowerByte =
      (Percent.decode (spacedBytes part)).map lowerByte := by
    rw [← Percent.map_lowerByte_decode, map_lowerByte_spacedBytes, Percent.map_lowerByte_decode]
  calc Text.asciiLowercase (decodePart (part.map Char.toLower))
      = Text.asciiLowercase (Utf8.decodeLossy
          ((Percent.decode (spacedBytes (part.map Char.toLower))).map lowerByte)) :=
        (Utf8.asciiLowercase_decodeLossy _).symm
    _ = Text.asciiLowercase (Utf8.decodeLossy
          ((Percent.decode (spacedBytes part)).map lowerByte)) := by rw [hbytes]
    _ = Text.asciiLowercase (decodePart part) := Utf8.asciiLowercase_decodeLossy _

end Query

end QueueClient
