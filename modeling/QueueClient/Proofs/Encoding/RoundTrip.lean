/-
# Texts as bytes and back

The bytes of a character are read back as that character, whatever bytes follow
(`first_encodeChar`), by the number of bytes it takes.  So a text that is written as bytes is what a
lenient reader reads (`decodeLossy_encode`).
-/
import Mathlib.Tactic
import QueueClient.Encoding.Utf8

namespace QueueClient.Utf8

variable {n : ℕ}

lemma toNat_ofNat (h : n < 256) : (UInt8.ofNat n).toNat = n := UInt8.toNat_ofNat_of_lt' h

lemma payload_ofNat (h : n < 64) : payload (UInt8.ofNat (n + 128)) = n := by
  rw [payload, toNat_ofNat (by omega)]
  omega

lemma isContinuation_ofNat (h : n < 64) : isContinuation (UInt8.ofNat (n + 128)) = true := by
  simp only [isContinuation, Bool.and_eq_true, decide_eq_true_eq, UInt8.le_iff_toNat_le,
    toNat_ofNat (show n + 128 < 256 by omega)]
  exact ⟨Nat.le_add_left _ _, by show n + 128 ≤ 191; omega⟩

/-- How many bytes a character has is told by the range of its first byte. -/
lemma width_ofNat (h : n < 256) :
    width (UInt8.ofNat n) = if n < 128 then 1 else if n < 194 then 0 else if n < 224 then 2
      else if n < 240 then 3 else if n < 245 then 4 else 0 := by
  simp only [width, UInt8.lt_iff_toNat_lt, toNat_ofNat h]
  rfl

/-- The second byte has to be in a range that the first one tells. -/
lemma isSecond_ofNat {m : ℕ} (hm : m < 256) (hn : n < 64)
    (he0 : m = 224 → 32 ≤ n) (hed : m = 237 → n ≤ 31) (hf0 : m = 240 → 16 ≤ n)
    (hf4 : m = 244 → n ≤ 15) : isSecond (UInt8.ofNat m) (UInt8.ofNat (n + 128)) = true := by
  have hb : n + 128 < 256 := by omega
  simp only [isSecond, isContinuation_ofNat hn, Bool.true_and, beq_iff_eq, ← UInt8.toNat_inj,
    toNat_ofNat hm]
  show (if m = 224 then _ else if m = 237 then _ else if m = 240 then _ else if m = 244 then _
    else _) = true
  split_ifs with h224 h237 h240 h244
  · simp only [decide_eq_true_eq, UInt8.le_iff_toNat_le, toNat_ofNat hb]
    show 160 ≤ n + 128
    have := he0 h224
    omega
  · simp only [decide_eq_true_eq, UInt8.le_iff_toNat_le, toNat_ofNat hb]
    show n + 128 ≤ 159
    have := hed h237
    omega
  · simp only [decide_eq_true_eq, UInt8.le_iff_toNat_le, toNat_ofNat hb]
    show 144 ≤ n + 128
    have := hf0 h240
    omega
  · simp only [decide_eq_true_eq, UInt8.le_iff_toNat_le, toNat_ofNat hb]
    show n + 128 ≤ 143
    have := hf4 h244
    omega
  · rfl

/-- **The bytes of a character are read as that character**, and none of the bytes behind them. -/
theorem first_encodeChar (c : Char) (rest : List UInt8) :
    ∃ b bytes, String.utf8EncodeChar c = b :: bytes ∧
      first b (bytes ++ rest) = (some c, bytes.length) := by
  -- a character is no surrogate and no code point beyond the last one
  have hvalid : c.val.toNat < 0xd800 ∨ 0xdfff < c.val.toNat ∧ c.val.toNat < 0x110000 := c.valid
  have hchar : Char.ofNat c.val.toNat = c := Char.ofNat_toNat c
  rw [String.utf8EncodeChar]
  generalize c.val.toNat = v at hvalid hchar
  subst hchar
  split_ifs with h1 h2 h3
  · refine ⟨_, _, rfl, ?_⟩
    have hwidth : width (UInt8.ofNat v) = 1 := by rw [width_ofNat (by omega), if_pos (by omega)]
    simp only [first, hwidth, toNat_ofNat (show v < 256 by omega), List.length_nil]
  · refine ⟨_, _, rfl, ?_⟩
    have hwidth : width (UInt8.ofNat (v / 64 % 32 + 192)) = 2 := by
      rw [width_ofNat (by omega), if_neg (by omega), if_neg (by omega), if_pos (by omega)]
    have hsecond := isSecond_ofNat (m := v / 64 % 32 + 192) (n := v % 64) (by omega) (by omega)
      (by omega) (by omega) (by omega) (by omega)
    have hvalue : (v / 64 % 32 + 192) % 32 * 64 + v % 64 = v := by omega
    simp only [first, hwidth, List.cons_append, List.nil_append, hsecond, if_true,
      payload_ofNat (show v % 64 < 64 by omega),
      toNat_ofNat (show v / 64 % 32 + 192 < 256 by omega), hvalue, List.length_singleton]
  · refine ⟨_, _, rfl, ?_⟩
    have hwidth : width (UInt8.ofNat (v / 4096 % 16 + 224)) = 3 := by
      rw [width_ofNat (by omega), if_neg (by omega), if_neg (by omega), if_neg (by omega),
        if_pos (by omega)]
    have hsecond := isSecond_ofNat (m := v / 4096 % 16 + 224) (n := v / 64 % 64) (by omega)
      (by omega) (by omega) (by omega) (by omega) (by omega)
    have hvalue : (v / 4096 % 16 + 224) % 16 * 4096 + v / 64 % 64 * 64 + v % 64 = v := by omega
    simp only [first, hwidth, List.cons_append, List.nil_append, hsecond, if_true,
      isContinuation_ofNat (show v % 64 < 64 by omega),
      payload_ofNat (show v % 64 < 64 by omega), payload_ofNat (show v / 64 % 64 < 64 by omega),
      toNat_ofNat (show v / 4096 % 16 + 224 < 256 by omega), hvalue, List.length_cons,
      List.length_nil]
  · refine ⟨_, _, rfl, ?_⟩
    have hwidth : width (UInt8.ofNat (v / 262144 % 8 + 240)) = 4 := by
      rw [width_ofNat (by omega), if_neg (by omega), if_neg (by omega), if_neg (by omega),
        if_neg (by omega), if_pos (by omega)]
    have hsecond := isSecond_ofNat (m := v / 262144 % 8 + 240) (n := v / 4096 % 64) (by omega)
      (by omega) (by omega) (by omega) (by omega) (by omega)
    have hvalue : (v / 262144 % 8 + 240) % 8 * 262144 + v / 4096 % 64 * 4096 +
        v / 64 % 64 * 64 + v % 64 = v := by omega
    simp only [first, hwidth, List.cons_append, List.nil_append, hsecond, if_true,
      isContinuation_ofNat (show v % 64 < 64 by omega),
      isContinuation_ofNat (show v / 64 % 64 < 64 by omega),
      payload_ofNat (show v % 64 < 64 by omega), payload_ofNat (show v / 64 % 64 < 64 by omega),
      payload_ofNat (show v / 4096 % 64 < 64 by omega),
      toNat_ofNat (show v / 262144 % 8 + 240 < 256 by omega), hvalue, List.length_cons,
      List.length_nil]

lemma scan_encodeChars (cs : List Char) :
    scan (cs.flatMap String.utf8EncodeChar) = cs.map some := by
  induction cs with
  | nil => rw [List.flatMap_nil, scan, List.map_nil]
  | cons c cs ih =>
    obtain ⟨b, bytes, hbytes, hfirst⟩ := first_encodeChar c (cs.flatMap String.utf8EncodeChar)
    rw [List.flatMap_cons, hbytes, List.cons_append, scan, hfirst, List.drop_left, ih,
      List.map_cons]

/-- **What was written is read.** -/
theorem decodeLossy_encode (s : String) : decodeLossy (encode s) = s := by
  rw [decodeLossy, encode, scan_encodeChars, List.map_map]
  have hself : ((·.getD '\ufffd') ∘ some : Char → Char) = id := rfl
  rw [hself, List.map_id, String.ofList_toList]

end QueueClient.Utf8
