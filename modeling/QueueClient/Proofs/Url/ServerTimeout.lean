/-
# One server timeout

A server timeout replaces the timeouts in the text of a query and nothing else: of the pieces, those
that are empty, `timeout` or `timeout=..` go, and the new one stands behind the others
(`setServerTimeout_replaces`).  A later timeout leaves no trace of an earlier one, and masking does
not mind which of the two comes first.

The signer reads the same query with its names decoded and in lower case.  A piece counts as a
timeout for both if the name is written `timeout` and nothing else; a name such as `TIMEOUT` or
`%74imeout` is one for the signer only (`IsOddTimeout`).  So the signer finds the new timeout
behind the timeouts that are written oddly (`timeouts_setServerTimeout`), and finds one timeout if
and only if there are none of those.

Seconds are counted in 64 bits, so budgets have to leave room for the one second more.
-/
import QueueClient.Proofs.Credential.ReadBack
import QueueClient.Proofs.Url.Masking

namespace QueueClient

open RequestLog

/-! ## The pieces that are replaced -/

namespace Query

variable {piece : List Char} {budget : Duration}

/-- The name of the parameter that is replaced. -/
def timeoutName : List Char := "timeout".toList

lemma isForeignPiece_eq_true :
    isForeignPiece piece = true ↔
      piece ≠ [] ∧ piece ≠ timeoutName ∧ ¬timeoutName ++ ['='] <+: piece := by
  have hstart : "timeout=".toList = timeoutName ++ ['='] := rfl
  rw [isForeignPiece, hstart, Bool.and_eq_true, Bool.and_eq_true, Bool.not_eq_true',
    Bool.not_eq_true', bne_iff_ne, ← Bool.not_eq_true, ← Bool.not_eq_true, List.isEmpty_iff,
    List.isPrefixOf_iff_prefix, and_assoc]
  rfl

/-- A piece stays if and only if it is not empty and its name is not written as that of
timeouts. -/
lemma isForeignPiece_iff_split :
    isForeignPiece piece = true ↔ piece ≠ [] ∧ (split piece).1 ≠ timeoutName := by
  rw [isForeignPiece_eq_true]
  by_cases hmem : '=' ∈ piece
  · obtain ⟨name, value, hname, rfl⟩ := exists_eq_append hmem
    have hwhole : name ++ '=' :: value ≠ timeoutName := by
      intro heq
      have hsign : '=' ∈ timeoutName := heq ▸ hmem
      revert hsign
      decide
    have hstart : timeoutName ++ ['='] <+: name ++ '=' :: value ↔ name = timeoutName := by
      constructor
      · rintro ⟨behind, heq⟩
        rw [List.append_assoc, List.singleton_append] at heq
        -- both sides are cut at their first sign
        have hsplit := congrArg split heq
        rw [split_append hname, split_append (by decide)] at hsplit
        exact (congrArg Prod.fst hsplit).symm
      · rintro rfl
        exact ⟨value, by simp⟩
    rw [split_append hname, hstart]
    simp [hwhole]
  · have hstart : ¬timeoutName ++ ['='] <+: piece := by
      rintro ⟨behind, rfl⟩
      exact hmem (by simp)
    rw [split_of_not_mem hmem]
    simp [hstart]

lemma timeoutPiece_eq (budget : Duration) :
    timeoutPiece budget = timeoutName ++ '=' :: (toString (budget.secs + 1)).toList := by
  rw [timeoutPiece, String.toList_append]
  rfl

lemma split_timeoutPiece (budget : Duration) :
    split (timeoutPiece budget) = (timeoutName, some (toString (budget.secs + 1)).toList) := by
  rw [timeoutPiece_eq]
  exact split_append (by decide) _

lemma isForeignPiece_timeoutPiece (budget : Duration) :
    isForeignPiece (timeoutPiece budget) = false := by
  rw [← Bool.not_eq_true, isForeignPiece_iff_split, split_timeoutPiece]
  simp

lemma holdsSignature_timeoutPiece (budget : Duration) :
    holdsSignature (timeoutPiece budget) = false := by
  have hname : (timeoutName.map Char.toLower == signatureName) = false := by decide
  rw [holdsSignature, split_timeoutPiece]
  exact hname

/-- Masking leaves the name of a piece, so it makes and loses no timeout. -/
lemma isForeignPiece_maskPiece (piece : List Char) :
    isForeignPiece (maskPiece piece) = isForeignPiece piece := by
  cases hholds : holdsSignature piece with
  | false => rw [maskPiece_eq_self hholds]
  | true =>
    obtain ⟨name, value, hname, rfl, hmasked⟩ := maskPiece_of_holdsSignature hholds
    rw [hmasked, isForeignPiece_signature hname, isForeignPiece_signature hname]

/-- The seconds that are announced, with the sum taken in 64 bits. -/
lemma toNat_announced (h : budget.secs + 1 < UInt64.size) :
    (budget.secs.toUInt64 + 1).toNat = budget.secs + 1 := by
  have hsecs : budget.secs % 2 ^ 64 = budget.secs := Nat.mod_eq_of_lt (Duration.secs_lt budget)
  rw [UInt64.toNat_add, Nat.toUInt64, UInt64.toNat_ofNat', hsecs]
  exact Nat.mod_eq_of_lt h

lemma toString_announced (h : budget.secs + 1 < UInt64.size) :
    toString (budget.secs.toUInt64 + 1) = toString (budget.secs + 1) := by
  rw [← toNat_announced h]
  rfl

end Query

/-! ## Replacing the text -/

namespace Url

open Query

variable {u v : Url} {budget : Duration}

/-- URLs with a query are told by the pieces of it and by the rest. -/
lemma eq_of_pieces (hrest : u = { v with query := u.query }) (hu : u.query.isSome)
    (hv : v.query.isSome)
    (hpieces : pieces (u.query.getD "").toList = pieces (v.query.getD "").toList) : u = v := by
  obtain ⟨q, hq⟩ := Option.isSome_iff_exists.mp hu
  obtain ⟨q', hq'⟩ := Option.isSome_iff_exists.mp hv
  rw [hq, hq', Option.getD_some, Option.getD_some] at hpieces
  have hqq : q = q' := by
    rw [← String.toList_inj, ← join_pieces q.toList, hpieces, join_pieces]
  rw [hrest, hq, hqq, ← hq']

lemma isEncoded_setServerTimeout (u : Url) (budget : Duration) :
    (u.setServerTimeout budget).IsEncoded := isEncoded_setQuery u _

lemma isEncoded_redact (h : u.IsEncoded) : (redact u).IsEncoded := by
  cases hq : u.query with
  | none => rwa [redact, hq]
  | some q =>
    rw [redact_of_some hq]
    split
    · exact isEncoded_setQuery u _
    · exact h

/-- Where the query is in its written form, the foreign pieces stay as they are. -/
lemma IsEncoded.pieces_setServerTimeout (h : u.IsEncoded) (budget : Duration) :
    pieces ((u.setServerTimeout budget).query.getD "").toList =
      (pieces (u.query.getD "").toList).filter isForeignPiece ++ [timeoutPiece budget] := by
  rw [QueueClient.pieces_setServerTimeout]
  congr 1
  cases hq : u.query with
  | none => rfl
  | some q =>
    rw [Option.getD_some]
    calc ((pieces q.toList).filter isForeignPiece).map (encodeQuery (isSpecialScheme u.scheme))
        = ((pieces q.toList).filter isForeignPiece).map id :=
          List.map_congr_left fun p hp => h.encodeQuery_piece hq (List.mem_of_mem_filter hp)
      _ = (pieces q.toList).filter isForeignPiece := List.map_id _

/-- The later timeout replaces the earlier one. -/
lemma IsEncoded.setServerTimeout_setServerTimeout (h : u.IsEncoded) (budget later : Duration) :
    (u.setServerTimeout budget).setServerTimeout later = u.setServerTimeout later := by
  have hpieces : timeoutPieces ((u.setServerTimeout budget).query.getD "").toList later =
      timeoutPieces (u.query.getD "").toList later := by
    rw [timeoutPieces, h.pieces_setServerTimeout, List.filter_append, List.filter_filter,
      timeoutPieces]
    simp [isForeignPiece_timeoutPiece]
  have hquery : ∀ text, (u.setServerTimeout budget).setQuery text = u.setQuery text :=
    fun _ => rfl
  rw [setServerTimeout, hpieces, hquery, setServerTimeout]

/-- Masking and setting a timeout can be done in either order. -/
lemma IsEncoded.redact_setServerTimeout (h : u.IsEncoded) (budget : Duration) :
    redact (u.setServerTimeout budget) = (redact u).setServerTimeout budget := by
  obtain ⟨hrest, -⟩ := redact_rest u
  obtain ⟨hrest', hsome'⟩ := redact_rest (u.setServerTimeout budget)
  refine eq_of_pieces ?_ (hsome'.trans rfl) rfl ?_
  · calc redact (u.setServerTimeout budget)
        = { u with query := (redact (u.setServerTimeout budget)).query } := hrest'
      _ = { redact u with query := (redact (u.setServerTimeout budget)).query } := by rw [hrest]
  · have hforeign : isForeignPiece ∘ maskPiece = isForeignPiece :=
      funext fun piece => isForeignPiece_maskPiece piece
    rw [(isEncoded_setServerTimeout u budget).pieces_redact,
      (isEncoded_redact h).pieces_setServerTimeout, h.pieces_redact, h.pieces_setServerTimeout,
      List.filter_map, hforeign, List.map_append, List.map_singleton,
      maskPiece_eq_self (holdsSignature_timeoutPiece budget)]

/-- **A server timeout is a clean replacement.**  The pieces that are neither empty nor timeouts
stay, byte for byte and in order, with the new timeout behind them; so does the rest of the URL.  A
second timeout takes the place of the first, and signatures can be masked before or after. -/
theorem setServerTimeout_replaces (u : Url) (h : u.IsEncoded) (budget later : Duration)
    (hbudget : budget.secs + 1 < UInt64.size) :
    u.setServerTimeout budget = { u with query := (u.setServerTimeout budget).query } ∧
      (∃ q, (u.setServerTimeout budget).query = some q ∧
        pieces q.toList =
          (pieces (u.query.getD "").toList).filter (fun piece =>
              piece ≠ [] ∧ piece ≠ "timeout".toList ∧ ¬"timeout=".toList <+: piece) ++
            [("timeout=" ++ toString (budget.secs.toUInt64 + 1)).toList]) ∧
      (u.setServerTimeout budget).setServerTimeout later = u.setServerTimeout later ∧
      redact (u.setServerTimeout budget) = (redact u).setServerTimeout budget := by
  have hforeign : isForeignPiece = fun piece => decide
      (piece ≠ [] ∧ piece ≠ "timeout".toList ∧ ¬"timeout=".toList <+: piece) := by
    funext piece
    rw [Bool.eq_iff_iff, decide_eq_true_iff]
    exact isForeignPiece_eq_true
  have hpieces := h.pieces_setServerTimeout budget
  rw [hforeign, timeoutPiece, ← toString_announced hbudget] at hpieces
  exact ⟨rfl, ⟨_, rfl, hpieces⟩, h.setServerTimeout_setServerTimeout budget later,
    h.redact_setServerTimeout budget⟩

/-- A query with an empty piece, two timeouts, a name that begins like one, and a signature. -/
theorem setServerTimeout_replaces_loopback :
    parse "http://[::1]/q?a=1&&timeout=99&timeouts=2&SIG=b&timeout" =
        .ok (loopback "a=1&&timeout=99&timeouts=2&SIG=b&timeout") ∧
      (loopback "a=1&&timeout=99&timeouts=2&SIG=b&timeout").IsEncoded ∧
      (Duration.ofMillis 2500).secs + 1 < UInt64.size ∧
      ((loopback "a=1&&timeout=99&timeouts=2&SIG=b&timeout").setServerTimeout
        (.ofMillis 2500)).query.map (fun q => pieces q.toList) =
          some ["a=1".toList, "timeouts=2".toList, "SIG=b".toList, "timeout=3".toList] := by
  have hread : parse "http://[::1]/q?a=1&&timeout=99&timeouts=2&SIG=b&timeout" =
      .ok (loopback "a=1&&timeout=99&timeouts=2&SIG=b&timeout") := by decide +kernel
  have h := isEncoded_of_parse hread
  have hbudget : (Duration.ofMillis 2500).secs + 1 < UInt64.size := by decide
  obtain ⟨-, ⟨q, hq, hpieces⟩, -⟩ := setServerTimeout_replaces _ h (.ofMillis 2500) .zero hbudget
  refine ⟨hread, h, hbudget, ?_⟩
  rw [hq, Option.map_some, hpieces]
  decide +kernel

end Url

/-! ## What the signer reads -/

namespace Query

variable {piece : List Char}

/-- The name of the parameter as it is signed. -/
def signedName (piece : List Char) : String := (Signature.signedPair piece).1

/-- The piece is a timeout for the signer, with the name written in another way. -/
def IsOddTimeout (piece : List Char) : Prop :=
  signedName piece = "timeout" ∧ (split piece).1 ≠ timeoutName

instance (piece : List Char) : Decidable (IsOddTimeout piece) :=
  inferInstanceAs (Decidable (_ ∧ _))

lemma pair_eq (piece : List Char) :
    pair piece = (decodePart (split piece).1, decodePart ((split piece).2.getD [])) := rfl

lemma signedName_of_split (h : (split piece).1 = timeoutName) : signedName piece = "timeout" := by
  rw [signedName, Signature.signedPair, pair_eq, h]
  cbv

lemma ne_nil_of_signedName (h : signedName piece = "timeout") : piece ≠ [] := by
  rintro rfl
  have hnone : signedName [] = "" := by cbv
  rw [hnone] at h
  revert h
  decide

/-- Digits are read as they stand. -/
lemma decodePart_toString (n : Nat) : decodePart (toString n).toList = toString n := by
  have hdigit : ∀ c ∈ (toString n).toList, c.isDigit = true := by
    intro c hc
    rw [Nat.toString_eq_repr, Nat.repr_eq_ofList_toDigits, String.toList_ofList] at hc
    exact Nat.isDigit_of_mem_toDigits (by decide) (by decide) hc
  have halnum : ∀ c ∈ (toString n).toList, c.isAlphanum = true := by
    intro c hc
    rw [Char.isAlphanum, hdigit c hc, Bool.or_true]
  have hne : ∀ c ∈ (toString n).toList, c ≠ '%' ∧ c ≠ '+' := by
    intro c hc
    constructor
    · rintro rfl
      exact absurd (hdigit _ hc) (by decide)
    · rintro rfl
      exact absurd (hdigit _ hc) (by decide)
  have hascii : ∀ c ∈ (toString n).toList, c.toNat < 128 := by
    intro c hc
    have := Url.isAlphanum_iff.mp (halnum c hc)
    omega
  rw [decodePart_of_plain hascii fun hmem => (hne _ hmem).1 rfl]
  have hkept : (toString n).toList.map plusToSpace = (toString n).toList.map id :=
    List.map_congr_left fun c hc => if_neg (hne c hc).2
  rw [hkept, List.map_id, String.ofList_toList]

lemma pair_timeoutPiece (budget : Duration) :
    pair (timeoutPiece budget) = ("timeout", toString (budget.secs + 1)) := by
  have hname : decodePart timeoutName = "timeout" := by cbv
  rw [pair_eq, split_timeoutPiece, hname, Option.getD_some, decodePart_toString]

lemma signedName_timeoutPiece (budget : Duration) :
    signedName (timeoutPiece budget) = "timeout" :=
  signedName_of_split (by rw [split_timeoutPiece])

end Query

namespace Url

open Query Signature

variable {u : Url} {budget : Duration}

/-- The values of a parameter come from the pieces with its name. -/
lemma parameterValues_eq_map (u : Url) (name : String) :
    parameterValues u name =
      ((pieces (u.query.getD "").toList).filter fun piece =>
        !piece.isEmpty && signedName piece == name).map fun piece => (pair piece).2 := by
  rw [parameterValues, parameters_eq_map, List.filter_map, List.map_map, List.filter_filter]
  refine congrArg _ (List.filter_congr fun piece _ => ?_)
  rw [Bool.and_comm]
  rfl

/-- The values that are signed come from the foreign pieces and from the timeout. -/
lemma IsEncoded.parameterValues_setServerTimeout (h : u.IsEncoded) (budget : Duration)
    (name : String) :
    parameterValues (u.setServerTimeout budget) name =
      ((pieces (u.query.getD "").toList).filter fun piece =>
          isForeignPiece piece && signedName piece == name).map (fun piece => (pair piece).2) ++
        if name = "timeout" then [toString (budget.secs + 1)] else [] := by
  have hnew : [timeoutPiece budget].filter (fun piece =>
      !piece.isEmpty && signedName piece == name) =
        if name = "timeout" then [timeoutPiece budget] else [] := by
    have hsome : (timeoutPiece budget).isEmpty = false := by rw [timeoutPiece_eq]; rfl
    rw [List.filter_singleton, hsome, signedName_timeoutPiece]
    by_cases hname : name = "timeout"
    · simp [hname]
    · have hne : ("timeout" == name) = false := beq_false_of_ne (Ne.symm hname)
      simp [hname, hne]
  have hforeign : (pieces (u.query.getD "").toList).filter (fun piece =>
      (!piece.isEmpty && signedName piece == name) && isForeignPiece piece) =
        (pieces (u.query.getD "").toList).filter fun piece =>
          isForeignPiece piece && signedName piece == name := by
    refine List.filter_congr fun piece _ => ?_
    cases hpiece : isForeignPiece piece with
    | false => simp
    | true => simp [(isForeignPiece_iff_split.mp hpiece).1]
  rw [parameterValues_eq_map, h.pieces_setServerTimeout, List.filter_append, List.filter_filter,
    hnew, hforeign, List.map_append]
  split
  · rw [List.map_singleton, pair_timeoutPiece]
  · rfl

/-- **Timeouts as the signer reads them.**  Of the timeouts of the caller those stay whose name is
written oddly, in front of the new one; so there is exactly one timeout if and only if the caller
has none of those.  All other parameters keep their values. -/
theorem timeouts_setServerTimeout (u : Url) (h : u.IsEncoded) (budget : Duration)
    (hbudget : budget.secs + 1 < UInt64.size) :
    parameterValues (u.setServerTimeout budget) "timeout" =
        ((pieces (u.query.getD "").toList).filter fun piece => IsOddTimeout piece).map
            (fun piece => (pair piece).2) ++ [toString (budget.secs.toUInt64 + 1)] ∧
      (parameterValues (u.setServerTimeout budget) "timeout" =
          [toString (budget.secs.toUInt64 + 1)] ↔
        ∀ piece ∈ pieces (u.query.getD "").toList, ¬IsOddTimeout piece) ∧
      ∀ name, name ≠ "timeout" →
        parameterValues (u.setServerTimeout budget) name = parameterValues u name := by
  have htimeouts : parameterValues (u.setServerTimeout budget) "timeout" =
      ((pieces (u.query.getD "").toList).filter fun piece => IsOddTimeout piece).map
        (fun piece => (pair piece).2) ++ [toString (budget.secs.toUInt64 + 1)] := by
    rw [h.parameterValues_setServerTimeout, if_pos rfl, toString_announced hbudget,
      List.append_left_inj]
    refine congrArg _ (List.filter_congr fun piece _ => ?_)
    rw [Bool.eq_iff_iff, Bool.and_eq_true, beq_iff_eq, isForeignPiece_iff_split,
      decide_eq_true_iff, IsOddTimeout]
    constructor
    · rintro ⟨⟨-, hsplit⟩, hname⟩
      exact ⟨hname, hsplit⟩
    · rintro ⟨hname, hsplit⟩
      exact ⟨⟨ne_nil_of_signedName hname, hsplit⟩, hname⟩
  refine ⟨htimeouts, ?_, fun name hname => ?_⟩
  · rw [htimeouts, List.append_left_eq_self, List.map_eq_nil_iff, List.filter_eq_nil_iff]
    simp only [decide_eq_true_eq]
  · rw [h.parameterValues_setServerTimeout, if_neg hname, List.append_nil, parameterValues_eq_map]
    refine congrArg _ (List.filter_congr fun piece _ => ?_)
    rw [Bool.eq_iff_iff, Bool.and_eq_true, Bool.and_eq_true, isForeignPiece_iff_split, beq_iff_eq,
      Bool.not_eq_true', ← Bool.not_eq_true, List.isEmpty_iff]
    constructor
    · rintro ⟨⟨hsome, -⟩, hread⟩
      exact ⟨hsome, hread⟩
    · rintro ⟨hsome, hread⟩
      exact ⟨⟨hsome, fun hsplit => hname (hread ▸ signedName_of_split hsplit)⟩, hread⟩

/-- One timeout that is written plainly and one that is not. -/
theorem timeouts_setServerTimeout_loopback :
    parse "http://[::1]/q?timeout=7&%74imeout=99&a=b" =
        .ok (loopback "timeout=7&%74imeout=99&a=b") ∧
      (loopback "timeout=7&%74imeout=99&a=b").IsEncoded ∧
      (Duration.ofMillis 2500).secs + 1 < UInt64.size ∧
      parameterValues ((loopback "timeout=7&%74imeout=99&a=b").setServerTimeout
        (.ofMillis 2500)) "timeout" = ["99", "3"] ∧
      parameterValues ((loopback "timeout=7&%74imeout=99&a=b").setServerTimeout
        (.ofMillis 2500)) "a" = ["b"] := by
  have hread : parse "http://[::1]/q?timeout=7&%74imeout=99&a=b" =
      .ok (loopback "timeout=7&%74imeout=99&a=b") := by decide +kernel
  have h := isEncoded_of_parse hread
  have hbudget : (Duration.ofMillis 2500).secs + 1 < UInt64.size := by decide
  obtain ⟨htimeouts, -, hothers⟩ := timeouts_setServerTimeout _ h (.ofMillis 2500) hbudget
  refine ⟨hread, h, hbudget, ?_, ?_⟩
  · rw [htimeouts]
    cbv
  · rw [hothers "a" (by decide)]
    cbv

/-- **The signer can find two timeouts**: a timeout of the caller whose name is written in capitals
stays beside the new one. -/
theorem exists_two_timeouts :
    parse "http://[::1]/q?TIMEOUT=99" = .ok (loopback "TIMEOUT=99") ∧
      parameterValues ((loopback "TIMEOUT=99").setServerTimeout (.ofSecs 3)) "timeout" =
        ["99", "4"] := by
  refine ⟨by decide +kernel, ?_⟩
  cbv

end Url

end QueueClient
