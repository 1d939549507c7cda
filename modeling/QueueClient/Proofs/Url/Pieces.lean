/-
# The pieces of a query

A query is read by cutting it at `&`, and it is replaced by a text that is encoded character by
character.  The two do not interfere: encoding neither makes an `&` or `=` out of something else nor
loses one, so the pieces of a query that was set are those that it was put together from, each
encoded by itself (`pieces_setQuery`).  In particular the query of a URL with a server timeout
consists of the foreign pieces and the timeout (`pieces_setServerTimeout`).
-/
import Mathlib.Tactic
import QueueClient.Retry.ServerTimeout

namespace QueueClient

/-! ## Escapes -/

namespace Percent

lemma isAlphanum_hexDigit : ∀ n < 16, (hexDigit n).isAlphanum = true := by decide

/-- Escapes are made of percent signs, letters and digits. -/
lemma mem_encodeByte {c : Char} {b : UInt8} (h : c ∈ encodeByte b) :
    c = '%' ∨ c.isAlphanum = true := by
  have hb : b.toNat < 256 := b.toNat_lt
  simp only [encodeByte, List.mem_cons, List.not_mem_nil, or_false] at h
  rcases h with rfl | rfl | rfl
  · exact Or.inl rfl
  · exact Or.inr (isAlphanum_hexDigit _ (by omega))
  · exact Or.inr (isAlphanum_hexDigit _ (Nat.mod_lt _ (by decide)))

end Percent

namespace Url

variable {special : Bool} {c d : Char}

/-- What the query of a URL of the given kind encodes. -/
def isEncoded (special : Bool) : Char → Bool :=
  if special then Percent.specialQuery else Percent.query

/-- What becomes of one character of a query. -/
def encodeChar (special : Bool) (c : Char) : List Char :=
  if isTabOrNewline c then []
  else if isEncoded special c then (String.utf8EncodeChar c).flatMap Percent.encodeByte
  else [c]

lemma encodeQuery_eq_flatMap (special : Bool) (q : List Char) :
    encodeQuery special q = q.flatMap (encodeChar special) := by
  induction q with
  | nil => rfl
  | cons c q ih =>
    rw [List.flatMap_cons, ← ih, encodeQuery, List.filter_cons, encodeChar]
    by_cases hc : isTabOrNewline c = true
    · simp [hc, encodeQuery]
    · simp only [hc, Bool.not_false, if_true, Percent.encode, List.flatMap_cons, encodeQuery]
      rfl

lemma mem_encodeChar (h : c ∈ encodeChar special d) :
    c = d ∨ c = '%' ∨ c.isAlphanum = true := by
  rw [encodeChar] at h
  split at h
  · cases h
  · split at h
    · obtain ⟨b, -, hb⟩ := List.mem_flatMap.mp h
      exact Or.inr (Percent.mem_encodeByte hb)
    · exact Or.inl (List.mem_singleton.mp h)

/-- A sign that is none of an escape is there after encoding only if it was there before. -/
lemma not_mem_encodeQuery {x : Char} (hx : x ≠ '%') (hsign : x.isAlphanum = false)
    {q : List Char} (h : x ∉ q) : x ∉ encodeQuery special q := by
  rw [encodeQuery_eq_flatMap, List.mem_flatMap]
  rintro ⟨d, hd, hxd⟩
  rcases mem_encodeChar hxd with rfl | rfl | halnum
  · exact h hd
  · exact hx rfl
  · rw [hsign] at halnum
    cases halnum

lemma encodeQuery_append (special : Bool) (p q : List Char) :
    encodeQuery special (p ++ q) = encodeQuery special p ++ encodeQuery special q := by
  simp only [encodeQuery_eq_flatMap, List.flatMap_append]

lemma encodeQuery_cons_of_kept (hc : encodeChar special c = [c]) (q : List Char) :
    encodeQuery special (c :: q) = c :: encodeQuery special q := by
  rw [encodeQuery_eq_flatMap, encodeQuery_eq_flatMap, List.flatMap_cons, hc, List.singleton_append]

/-- A text of characters that are kept is kept. -/
lemma encodeQuery_eq_self {q : List Char} (h : ∀ c ∈ q, encodeChar special c = [c]) :
    encodeQuery special q = q := by
  induction q with
  | nil => rfl
  | cons c q ih =>
    rw [encodeQuery_cons_of_kept (h c List.mem_cons_self),
      ih fun d hd => h d (List.mem_cons_of_mem c hd)]

lemma encodeChar_ampersand (special : Bool) : encodeChar special '&' = ['&'] := by
  cases special <;> decide

lemma encodeChar_equals (special : Bool) : encodeChar special '=' = ['='] := by
  cases special <;> decide

lemma isAlphanum_iff :
    c.isAlphanum = true ↔ (65 ≤ c.toNat ∧ c.toNat ≤ 90) ∨ (97 ≤ c.toNat ∧ c.toNat ≤ 122) ∨
      (48 ≤ c.toNat ∧ c.toNat ≤ 57) := by
  change (decide ('A'.val ≤ c.val ∧ c.val ≤ 'Z'.val) ||
    decide ('a'.val ≤ c.val) && decide (c.val ≤ 'z'.val) ||
    decide ('0'.val ≤ c.val) && decide (c.val ≤ '9'.val)) = true ↔ _
  simp only [Bool.or_eq_true, Bool.and_eq_true, decide_eq_true_eq, UInt32.le_iff_toNat_le]
  exact or_assoc

/-- Letters and digits are kept. -/
lemma encodeChar_of_isAlphanum (h : c.isAlphanum = true) (special : Bool) :
    encodeChar special c = [c] := by
  have hrange := isAlphanum_iff.mp h
  have hne : ∀ x : Char, x.isAlphanum = false → c ≠ x := by
    rintro x hx rfl
    rw [h] at hx
    cases hx
  have htab : isTabOrNewline c = false := by
    simp [isTabOrNewline, hne '\t' (by decide), hne '\n' (by decide), hne '\r' (by decide)]
  have hquery : Percent.query c = false := by
    simp [Percent.query, Percent.controls, hne ' ' (by decide), hne '"' (by decide),
      hne '#' (by decide), hne '<' (by decide), hne '>' (by decide)]
    omega
  have hencoded : isEncoded special c = false := by
    cases special with
    | false => exact hquery
    | true => simp [isEncoded, Percent.specialQuery, hquery, hne '\'' (by decide)]
  rw [encodeChar, htab, hencoded]
  rfl

end Url

/-! ## Pieces -/

namespace Query

variable {special : Bool} {text : List Char} {ps : List (List Char)}

lemma pieces_ne_nil (text : List Char) : pieces text ≠ [] := List.splitOn_ne_nil _ _

lemma join_pieces (text : List Char) : join (pieces text) = text := List.intercalate_splitOn '&'

/-- Texts without `&`, put together, are the pieces of what they make. -/
lemma pieces_join (h : ∀ p ∈ ps, '&' ∉ p) (hne : ps ≠ []) : pieces (join ps) = ps :=
  List.splitOn_intercalate '&' h hne

lemma pieces_cons (c : Char) (text : List Char) :
    pieces (c :: text) =
      if c = '&' then [] :: pieces text else (pieces text).modifyHead (c :: ·) := by
  rw [pieces, List.splitOn, List.splitOnP_cons_eq_if_modifyHead]
  simp only [beq_iff_eq]
  rfl

/-- No piece goes beyond an `&`. -/
lemma not_mem_of_mem_pieces {p : List Char} (h : p ∈ pieces text) : '&' ∉ p := by
  induction text generalizing p with
  | nil =>
    obtain rfl : p = [] := List.mem_singleton.mp h
    exact List.not_mem_nil
  | cons c text ih =>
    rw [pieces_cons] at h
    split at h
    · rcases List.mem_cons.mp h with rfl | h
      · exact List.not_mem_nil
      · exact ih h
    · rename_i hc
      obtain ⟨q, qs, hq⟩ := List.exists_cons_of_ne_nil (pieces_ne_nil text)
      rw [hq, List.modifyHead_cons] at h
      rcases List.mem_cons.mp h with rfl | h
      · rw [List.mem_cons, not_or]
        exact ⟨Ne.symm hc, ih (hq ▸ List.mem_cons_self)⟩
      · exact ih (hq ▸ List.mem_cons_of_mem q h)

lemma encodeQuery_join (special : Bool) (ps : List (List Char)) :
    Url.encodeQuery special (join ps) = join (ps.map (Url.encodeQuery special)) := by
  induction ps with
  | nil => rfl
  | cons p ps ih =>
    cases ps with
    | nil => simp only [join, List.map_cons, List.map_nil, List.intercalate_singleton]
    | cons q ps =>
      have hjoin : ∀ (a b : List Char) (rest : List (List Char)),
          join (a :: b :: rest) = a ++ '&' :: join (b :: rest) := by
        intro a b rest
        simp only [join, List.intercalate_cons_cons, List.append_assoc, List.singleton_append]
      rw [hjoin, Url.encodeQuery_append,
        Url.encodeQuery_cons_of_kept (Url.encodeChar_ampersand special), ih, List.map_cons,
        List.map_cons, List.map_cons, hjoin]

/-- **The pieces of a query that was set** are those that it was put together from, encoded. -/
theorem pieces_setQuery (u : Url) (h : ∀ p ∈ ps, '&' ∉ p) (hne : ps ≠ []) :
    pieces ((u.setQuery (join ps)).query.getD "").toList =
      ps.map (Url.encodeQuery (Url.isSpecialScheme u.scheme)) := by
  rw [Url.setQuery, Option.getD_some, String.toList_ofList, encodeQuery_join]
  refine pieces_join (fun p hp => ?_) (by simpa using hne)
  obtain ⟨q, hq, rfl⟩ := List.mem_map.mp hp
  exact Url.not_mem_encodeQuery (by decide) (by decide) (h q hq)

end Query

/-! ## Server timeouts -/

/-- The parameter is made of its name, the sign and digits. -/
lemma mem_timeoutPiece {c : Char} {budget : Duration} (h : c ∈ timeoutPiece budget) :
    c = '=' ∨ c.isAlphanum = true := by
  rw [timeoutPiece, String.toList_append, List.mem_append] at h
  rcases h with h | h
  · have hname : ("timeout=".toList.all fun c => c == '=' || c.isAlphanum) = true := by decide
    have hc := List.all_eq_true.mp hname c h
    rwa [Bool.or_eq_true, beq_iff_eq] at hc
  · rw [Nat.toString_eq_repr, Nat.repr_eq_ofList_toDigits, String.toList_ofList] at h
    have hdigit := Nat.isDigit_of_mem_toDigits (by decide) (by decide) h
    exact Or.inr (by rw [Char.isAlphanum, hdigit, Bool.or_true])

lemma encodeQuery_timeoutPiece (special : Bool) (budget : Duration) :
    Url.encodeQuery special (timeoutPiece budget) = timeoutPiece budget := by
  refine Url.encodeQuery_eq_self fun c hc => ?_
  rcases mem_timeoutPiece hc with rfl | halnum
  · exact Url.encodeChar_equals special
  · exact Url.encodeChar_of_isAlphanum halnum special

lemma not_mem_of_mem_timeoutPieces {text p : List Char} {budget : Duration}
    (h : p ∈ timeoutPieces text budget) : '&' ∉ p := by
  rw [timeoutPieces, List.mem_append, List.mem_singleton] at h
  rcases h with h | rfl
  · exact Query.not_mem_of_mem_pieces (List.mem_filter.mp h).1
  · intro hmem
    rcases mem_timeoutPiece hmem with heq | halnum
    · cases heq
    · cases halnum

/-- **With a server timeout** the query consists of the foreign pieces, encoded, and the timeout. -/
theorem pieces_setServerTimeout (u : Url) (budget : Duration) :
    Query.pieces ((u.setServerTimeout budget).query.getD "").toList =
      ((Query.pieces (u.query.getD "").toList).filter isForeignPiece).map
        (Url.encodeQuery (Url.isSpecialScheme u.scheme)) ++ [timeoutPiece budget] := by
  rw [Url.setServerTimeout, Query.pieces_setQuery u (fun p hp => not_mem_of_mem_timeoutPieces hp)
    (by simp [timeoutPieces]), timeoutPieces, List.map_append, List.map_singleton,
    encodeQuery_timeoutPiece]

end QueueClient
