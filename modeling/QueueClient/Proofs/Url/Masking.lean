/-
# Masked URLs

What is masked is found in the text of a query, while whoever uses the URL reads the query: pieces
are cut at their first `=`, and names and values are decoded.  The two agree on every name that is
written without escapes, as such a name is read as it stands (`decodePart_of_plain`): a piece is
masked if and only if it gives a value to a parameter that reads `sig` in any letter case, and the
name is written without escapes (`holdsSignature_iff`).  A name with escapes, such as `%73ig`, can
be read as that of a signature as well, and is not masked.

All of this is about queries in the form in which URLs hold them (`Url.IsEncoded`), which is what
reading a URL and setting a query come to: only there does setting the masked query leave the other
pieces alone.
-/
import Mathlib
import QueueClient.Proofs.Url.Signatures
import QueueClient.Url.Parser

namespace QueueClient

open RequestLog

/-! ## Queries in their written form -/

namespace Url

variable {special : Bool} {c d : Char} {u : Url}

/-- The query is in the form in which URLs hold it: to set it again changes nothing. -/
def IsEncoded (u : Url) : Prop :=
  ∀ q, u.query = some q → encodeQuery (isSpecialScheme u.scheme) q.toList = q.toList

lemma encodeChar_percent (special : Bool) : encodeChar special '%' = ['%'] := by
  cases special <;> decide

/-- What a character is encoded to is not encoded again. -/
lemma encodeChar_of_mem (h : c ∈ encodeChar special d) : encodeChar special c = [c] := by
  have hsigns : c = '%' ∨ c.isAlphanum = true → encodeChar special c = [c] := by
    rintro (rfl | halnum)
    · exact encodeChar_percent special
    · exact encodeChar_of_isAlphanum halnum special
  rw [encodeChar] at h
  split at h
  · cases h
  · rename_i htab
    split at h
    · obtain ⟨b, -, hb⟩ := List.mem_flatMap.mp h
      exact hsigns (Percent.mem_encodeByte hb)
    · rename_i hkept
      obtain rfl := List.mem_singleton.mp h
      rw [encodeChar, if_neg htab, if_neg hkept]

/-- Nothing beyond ASCII is left. -/
lemma lt_of_mem_encodeQuery {q : List Char} (h : c ∈ encodeQuery special q) : c.toNat < 128 := by
  have halnum : c.isAlphanum = true → c.toNat < 128 := by
    intro h
    have := isAlphanum_iff.mp h
    omega
  have hkept : isEncoded special c = false → c.toNat < 128 := by
    intro h
    have hcontrols : Percent.controls c = false := by
      cases special <;>
        simp_all [isEncoded, Percent.specialQuery, Percent.query]
    simp only [Percent.controls, Bool.or_eq_false_iff, decide_eq_false_iff_not] at hcontrols
    omega
  rw [encodeQuery_eq_flatMap, List.mem_flatMap] at h
  obtain ⟨d, -, h⟩ := h
  rw [encodeChar] at h
  split at h
  · cases h
  · split at h
    · obtain ⟨b, -, hb⟩ := List.mem_flatMap.mp h
      rcases Percent.mem_encodeByte hb with rfl | hc
      · decide
      · exact halnum hc
    · rename_i hd
      obtain rfl := List.mem_singleton.mp h
      exact hkept (Bool.eq_false_iff.mpr hd)

lemma encodeQuery_encodeQuery (special : Bool) (q : List Char) :
    encodeQuery special (encodeQuery special q) = encodeQuery special q := by
  refine encodeQuery_eq_self fun c hc => ?_
  rw [encodeQuery_eq_flatMap, List.mem_flatMap] at hc
  obtain ⟨d, -, hcd⟩ := hc
  exact encodeChar_of_mem hcd

/-- **A query that was set is encoded.** -/
theorem isEncoded_setQuery (u : Url) (q : List Char) : (u.setQuery q).IsEncoded := by
  intro p hp
  rw [setQuery, Option.some.injEq] at hp
  rw [← hp, String.toList_ofList]
  exact encodeQuery_encodeQuery _ _

/-! ### URLs that were read -/

/-- Whatever is read has the scheme. -/
def ReadsScheme (scheme : String) (x : Except Fault Url) : Prop :=
  ∀ u, x = .ok u → u.scheme = scheme

namespace ReadsScheme

variable {scheme : String} {α : Type}

lemma pure {u : Url} (h : u.scheme = scheme) : ReadsScheme scheme (pure u) := by
  intro v hv
  obtain rfl : u = v := Except.ok.inj hv
  exact h

lemma bind {x : Except Fault α} {f : α → Except Fault Url}
    (h : ∀ a, ReadsScheme scheme (f a)) : ReadsScheme scheme (x >>= f) := by
  cases x with
  | error e => exact fun u hu => by cases hu
  | ok a => exact h a

lemma ite {p : Prop} [Decidable p] {x y : Except Fault Url} (hx : ReadsScheme scheme x)
    (hy : ReadsScheme scheme y) : ReadsScheme scheme (if p then x else y) := by
  split
  · exact hx
  · exact hy

end ReadsScheme

lemma readsScheme_readAuthority (scheme : String) (cs : List Char) :
    ReadsScheme scheme (readAuthority scheme cs) := by
  unfold readAuthority
  simp only
  -- each way through the checks ends in a URL with the scheme or in a fault
  repeat' first
    | exact ReadsScheme.pure rfl
    | refine ReadsScheme.bind fun _ => ?_
    | refine ReadsScheme.ite ?_ ?_
    | split

lemma readsScheme_readFile (cs : List Char) : ReadsScheme "file" (readFile cs) := by
  unfold readFile
  simp only
  split
  · exact .ite (.ite (.pure rfl) (.ite (.pure rfl) (.bind fun _ => .pure rfl))) (.pure rfl)
  · exact .pure rfl

lemma readsScheme_readFront (scheme : String) (cs : List Char) :
    ReadsScheme scheme (readFront scheme cs) := by
  unfold readFront
  split
  · rename_i h
    rw [h]
    exact readsScheme_readFile cs
  · split
    · exact readsScheme_readAuthority scheme _
    · split
      · exact readsScheme_readAuthority scheme _
      · intro u hu
        rw [← Except.ok.inj hu]

/-- **A URL that was read is encoded.** -/
theorem isEncoded_of_parse {s : String} (h : parse s = .ok u) : u.IsEncoded := by
  unfold parse at h
  simp only at h
  split at h
  · cases h
  · rename_i scheme rest _
    cases hfront : readFront scheme (splitTail rest).1 with
    | error e =>
      rw [hfront] at h
      cases h
    | ok front =>
      rw [hfront] at h
      rw [← Except.ok.inj h]
      have hscheme : front.scheme = scheme := readsScheme_readFront scheme _ front hfront
      intro q hq
      obtain ⟨text, -, rfl⟩ := Option.map_eq_some_iff.mp hq
      rw [String.toList_ofList, hscheme]
      exact encodeQuery_encodeQuery _ _

end Url

/-! ## Reading what is written without escapes -/

namespace Utf8

/-- A byte below 128 is a character by itself. -/
lemma first_of_lt {b : UInt8} (h : b < 0x80) (rest : List UInt8) :
    first b rest = (some (Char.ofNat b.toNat), 0) := by
  have hwidth : width b = 1 := if_pos h
  simp only [first, hwidth]

lemma scan_of_lt {bytes : List UInt8} (h : ∀ b ∈ bytes, b < 0x80) :
    scan bytes = bytes.map fun b => some (Char.ofNat b.toNat) := by
  induction bytes with
  | nil => rw [scan, List.map_nil]
  | cons b bytes ih =>
    rw [scan, first_of_lt (h b List.mem_cons_self), List.drop_zero,
      ih fun c hc => h c (List.mem_cons_of_mem b hc), List.map_cons]

lemma decodeLossy_of_lt {bytes : List UInt8} (h : ∀ b ∈ bytes, b < 0x80) :
    decodeLossy bytes = String.ofList (bytes.map fun b => Char.ofNat b.toNat) := by
  rw [decodeLossy, scan_of_lt h, List.map_map]
  rfl

end Utf8

namespace Percent

lemma decode_of_not_mem {bytes : List UInt8} (h : 0x25 ∉ bytes) : decode bytes = bytes := by
  fun_induction decode bytes with
  | case1 b x y rest z hz ih =>
    have hb : b ≠ 0x25 := fun hb => h (hb ▸ List.mem_cons_self)
    rw [escape?, if_neg hb] at hz
    cases hz
  | case2 b x y rest hz ih =>
    rw [ih fun hmem => h (List.mem_cons_of_mem b hmem)]
  | case3 short hshort => rfl

end Percent

namespace Query

/-- A space for a plus sign. -/
def plusToSpace (c : Char) : Char := if c = '+' then ' ' else c

/-- What becomes of the byte of a character below 128. -/
lemma plusToSpace_byte : ∀ n < 128,
    String.utf8EncodeChar (Char.ofNat n) = [UInt8.ofNat n] ∧
    (if UInt8.ofNat n = 0x2b then 0x20 else UInt8.ofNat n) =
      UInt8.ofNat (plusToSpace (Char.ofNat n)).toNat ∧
    (UInt8.ofNat (plusToSpace (Char.ofNat n)).toNat = 0x25 → Char.ofNat n = '%') ∧
    (plusToSpace (Char.ofNat n)).toNat < 128 := by
  decide

/-- **Without escapes a text is read as it stands**, but for the spaces. -/
lemma decodePart_of_plain {part : List Char} (hascii : ∀ c ∈ part, c.toNat < 128)
    (hplain : '%' ∉ part) : decodePart part = String.ofList (part.map plusToSpace) := by
  have hbyte := fun c (hc : c ∈ part) => plusToSpace_byte c.toNat (hascii c hc)
  simp only [Char.ofNat_toNat] at hbyte
  have hbytes : (part.flatMap String.utf8EncodeChar).map (fun b => if b = 0x2b then 0x20 else b) =
      part.map fun c => UInt8.ofNat (plusToSpace c).toNat := by
    rw [List.map_flatMap, List.map_eq_flatMap]
    refine List.flatMap_congr fun c hc => ?_
    rw [(hbyte c hc).1, List.map_singleton, (hbyte c hc).2.1]
  have hdecode : (0x25 : UInt8) ∉ part.map fun c => UInt8.ofNat (plusToSpace c).toNat := by
    intro hmem
    obtain ⟨c, hc, heq⟩ := List.mem_map.mp hmem
    exact hplain ((hbyte c hc).2.2.1 heq ▸ hc)
  have hnat : ∀ c ∈ part, (UInt8.ofNat (plusToSpace c).toNat).toNat = (plusToSpace c).toNat :=
    fun c hc => Nat.mod_eq_of_lt (by have := (hbyte c hc).2.2.2; omega)
  have hlt : ∀ b ∈ part.map fun c => UInt8.ofNat (plusToSpace c).toNat, b < 0x80 := by
    intro b hb
    obtain ⟨c, hc, rfl⟩ := List.mem_map.mp hb
    rw [UInt8.lt_iff_toNat_lt, hnat c hc]
    exact (hbyte c hc).2.2.2
  rw [decodePart, hbytes, Percent.decode_of_not_mem hdecode, Utf8.decodeLossy_of_lt hlt,
    List.map_map]
  congr 1
  refine List.map_congr_left fun c hc => ?_
  rw [Function.comp_apply, hnat c hc, Char.ofNat_toNat]

/-! ## Names of signatures -/

variable {name value piece : List Char}

/-- Without the sign there is a name only. -/
lemma split_of_not_mem (h : '=' ∉ piece) : split piece = (piece, none) := by
  have hpiece : ∀ c ∈ piece, decide (c ≠ '=') = true := by
    intro c hc
    rw [decide_eq_true_iff]
    rintro rfl
    exact h hc
  rw [split, List.span_eq_takeWhile_dropWhile, List.takeWhile_eq_self_iff.mpr hpiece,
    List.dropWhile_eq_nil_iff.mpr hpiece]

/-- A piece with the sign is a name and a value. -/
lemma exists_eq_append (h : '=' ∈ piece) :
    ∃ name value, '=' ∉ name ∧ piece = name ++ '=' :: value := by
  obtain ⟨name, value, rfl, hname⟩ := List.eq_append_cons_of_mem h
  exact ⟨name, value, hname, rfl⟩

/-- The piece gives a value to a parameter whose name is read as that of signatures. -/
def ReadsAsSignature (piece : List Char) : Prop :=
  '=' ∈ piece ∧ Text.asciiLowercase (pair piece).1 = "sig"

instance (piece : List Char) : Decidable (ReadsAsSignature piece) :=
  inferInstanceAs (Decidable (_ ∧ _))

/-- The piece gives a value to a parameter whose name reads as that of signatures without having to
be decoded. -/
def IsPlainSignature (piece : List Char) : Prop :=
  ReadsAsSignature piece ∧ '%' ∉ (split piece).1

instance (piece : List Char) : Decidable (IsPlainSignature piece) :=
  inferInstanceAs (Decidable (_ ∧ _))

lemma holdsSignature_append (h : '=' ∉ name) (value : List Char) :
    holdsSignature (name ++ '=' :: value) = true ↔ IsSignatureName name := by
  rw [holdsSignature, split_append h]
  exact beq_iff_eq

lemma holdsSignature_of_not_mem (h : '=' ∉ piece) : holdsSignature piece = false := by
  rw [holdsSignature, split_of_not_mem h]

/-- A name without escapes is read as that of signatures if it is one. -/
lemma asciiLowercase_decodePart (hascii : ∀ c ∈ name, c.toNat < 128) (hplain : '%' ∉ name) :
    Text.asciiLowercase (decodePart name) = "sig" ↔ IsSignatureName name := by
  have hlower : (Text.asciiLowercase (decodePart name)).toList =
      (name.map plusToSpace).map Char.toLower := by
    rw [Text.asciiLowercase, decodePart_of_plain hascii hplain, String.toList_ofList,
      String.toList_ofList]
  have hsig : "sig".toList = signatureName := rfl
  rw [← String.toList_inj, hlower, hsig, IsSignatureName]
  have hkept : '+' ∉ name → name.map plusToSpace = name := by
    intro hplus
    calc name.map plusToSpace = name.map id :=
          List.map_congr_left fun c hc => if_neg fun heq : c = '+' => hplus (heq ▸ hc)
      _ = name := List.map_id name
  constructor
  · intro h
    -- no name of a signature has a space in it, which a plus sign would be read as
    have hplus : '+' ∉ name := by
      intro hmem
      have hspace : ' ' ∈ signatureName := by
        rw [← h]
        exact List.mem_map_of_mem (List.mem_map_of_mem hmem)
      revert hspace
      decide
    rwa [hkept hplus] at h
  · intro h
    have hplus : '+' ∉ name := by
      intro hmem
      have halnum := IsSignatureName.isAlphanum h '+' hmem
      cases halnum
    rw [hkept hplus, h]

lemma pair_append (h : '=' ∉ name) (value : List Char) :
    pair (name ++ '=' :: value) = (decodePart name, decodePart value) := by
  rw [pair, split_append h]
  rfl

/-- **A piece is taken for a signature** if and only if it gives a value to a parameter that reads
as one, and the name is written without escapes. -/
theorem holdsSignature_iff (hascii : ∀ c ∈ piece, c.toNat < 128) :
    holdsSignature piece = true ↔ IsPlainSignature piece := by
  rw [IsPlainSignature]
  by_cases hmem : '=' ∈ piece
  · obtain ⟨name, value, hname, rfl⟩ := exists_eq_append hmem
    have hascii' : ∀ c ∈ name, c.toNat < 128 := fun c hc =>
      hascii c (List.mem_append_left _ hc)
    rw [holdsSignature_append hname, ReadsAsSignature, pair_append hname, split_append hname]
    constructor
    · intro h
      have hplain : '%' ∉ name := by
        intro hpercent
        have halnum := h.isAlphanum '%' hpercent
        cases halnum
      exact ⟨⟨hmem, (asciiLowercase_decodePart hascii' hplain).mpr h⟩, hplain⟩
    · rintro ⟨⟨-, hreads⟩, hplain⟩
      exact (asciiLowercase_decodePart hascii' hplain).mp hreads
  · rw [holdsSignature_of_not_mem hmem]
    constructor
    · intro h
      cases h
    · rintro ⟨⟨hsign, -⟩, -⟩
      exact absurd hsign hmem

/-! ## Masked pieces -/

lemma maskPiece_of_holdsSignature (h : holdsSignature piece = true) :
    ∃ name value, IsSignatureName name ∧ piece = name ++ '=' :: value ∧
      maskPiece piece = name ++ '=' :: mask := by
  by_cases hmem : '=' ∈ piece
  · obtain ⟨name, value, hname, rfl⟩ := exists_eq_append hmem
    have hsignature := (holdsSignature_append hname value).mp h
    exact ⟨name, value, hsignature, rfl, maskPiece_signature hsignature value⟩
  · rw [holdsSignature_of_not_mem hmem] at h
    cases h

lemma maskPiece_eq_self (h : holdsSignature piece = false) : maskPiece piece = piece := by
  by_cases hmem : '=' ∈ piece
  · obtain ⟨name, value, hname, rfl⟩ := exists_eq_append hmem
    have hno : ¬IsSignatureName name := by
      rw [← holdsSignature_append hname value, h]
      exact Bool.false_ne_true
    rw [maskPiece, split_append hname]
    exact if_neg hno
  · rw [maskPiece, split_of_not_mem hmem]

/-- Masking changes the value of a signature and nothing else. -/
lemma pair_maskPiece (piece : List Char) :
    pair (maskPiece piece) =
      if holdsSignature piece then ((pair piece).1, "REDACTED") else pair piece := by
  split
  · rename_i h
    obtain ⟨name, value, hname, rfl, hmasked⟩ := maskPiece_of_holdsSignature h
    have hmask : decodePart mask = "REDACTED" := by cbv
    rw [hmasked, pair_append hname.not_mem_equals, pair_append hname.not_mem_equals, hmask]
  · rename_i h
    rw [maskPiece_eq_self (Bool.eq_false_iff.mpr h)]

lemma isEmpty_maskPiece (piece : List Char) : (maskPiece piece).isEmpty = piece.isEmpty := by
  cases h : holdsSignature piece with
  | false => rw [maskPiece_eq_self h]
  | true =>
    obtain ⟨name, value, -, rfl, hmasked⟩ := maskPiece_of_holdsSignature h
    rw [hmasked]
    cases name <;> rfl

lemma not_mem_maskPiece (h : '&' ∉ piece) : '&' ∉ maskPiece piece := by
  cases hholds : holdsSignature piece with
  | false => rwa [maskPiece_eq_self hholds]
  | true =>
    obtain ⟨name, value, -, rfl, hmasked⟩ := maskPiece_of_holdsSignature hholds
    have hmask : '&' ∉ '=' :: mask := by decide
    rw [hmasked, List.mem_append, not_or]
    exact ⟨fun hmem => h (List.mem_append_left _ hmem), hmask⟩

lemma encodeQuery_maskPiece {special : Bool} (h : Url.encodeQuery special piece = piece) :
    Url.encodeQuery special (maskPiece piece) = maskPiece piece := by
  cases hholds : holdsSignature piece with
  | false => rwa [maskPiece_eq_self hholds]
  | true =>
    obtain ⟨name, value, hname, rfl, hmasked⟩ := maskPiece_of_holdsSignature hholds
    have hmask : Url.encodeQuery special mask = mask := by cases special <;> decide
    rw [hmasked, encodeQuery_signature special hname, hmask]

end Query

/-! ## Masked URLs -/

namespace Url

open Query

variable {u : Url} {q : String}

/-- The pieces of a query in the form of URLs are in that form. -/
lemma IsEncoded.encodeQuery_piece (h : u.IsEncoded) (hq : u.query = some q) {piece : List Char}
    (hpiece : piece ∈ pieces q.toList) :
    encodeQuery (isSpecialScheme u.scheme) piece = piece := by
  have hpieces : (pieces q.toList).map (encodeQuery (isSpecialScheme u.scheme)) =
      pieces q.toList := by
    have hjoin := h q hq
    rw [← join_pieces q.toList, encodeQuery_join] at hjoin
    have hcut := congrArg pieces hjoin
    rwa [pieces_join (fun p hp => not_mem_of_mem_pieces hp) (pieces_ne_nil _),
      pieces_join ?_ (by simpa using pieces_ne_nil _)] at hcut
    intro p hp
    obtain ⟨p', hp', rfl⟩ := List.mem_map.mp hp
    exact not_mem_encodeQuery (by decide) (by decide) (not_mem_of_mem_pieces hp')
  have hid : ∀ p ∈ pieces q.toList, encodeQuery (isSpecialScheme u.scheme) p = id p := by
    rw [← List.map_inj_left, hpieces, List.map_id]
  exact hid piece hpiece

lemma redact_of_some (hq : u.query = some q) :
    redact u = if (pieces q.toList).any holdsSignature
      then u.setQuery (join ((pieces q.toList).map maskPiece)) else u := by
  rw [redact, hq]

/-- There is nothing beyond ASCII in the query. -/
lemma IsEncoded.lt_of_mem_piece (h : u.IsEncoded) {piece : List Char}
    (hpiece : piece ∈ pieces (u.query.getD "").toList) : ∀ c ∈ piece, c.toNat < 128 := by
  cases hq : u.query with
  | none =>
    rw [hq] at hpiece
    obtain rfl : piece = [] := List.mem_singleton.mp hpiece
    exact fun c hc => absurd hc List.not_mem_nil
  | some q =>
    rw [hq, Option.getD_some] at hpiece
    intro c hc
    rw [← h.encodeQuery_piece hq hpiece] at hc
    exact lt_of_mem_encodeQuery hc

/-- **Masking goes through the pieces of the query one by one.** -/
theorem IsEncoded.pieces_redact (h : u.IsEncoded) :
    pieces ((redact u).query.getD "").toList =
      (pieces (u.query.getD "").toList).map maskPiece := by
  cases hq : u.query with
  | none =>
    have hredact : redact u = u := by rw [redact, hq]
    rw [hredact, hq]
    rfl
  | some q =>
    rw [redact_of_some hq, Option.getD_some]
    split
    · rw [pieces_setQuery u _ (by simpa using pieces_ne_nil _), List.map_map]
      · exact List.map_congr_left fun p hp =>
          encodeQuery_maskPiece (h.encodeQuery_piece hq hp)
      · intro p hp
        obtain ⟨p', hp', rfl⟩ := List.mem_map.mp hp
        exact not_mem_maskPiece (not_mem_of_mem_pieces hp')
    · rename_i hno
      rw [hq, Option.getD_some]
      calc pieces q.toList = (pieces q.toList).map id := (List.map_id _).symm
        _ = (pieces q.toList).map maskPiece := List.map_congr_left fun p hp => by
          rw [maskPiece_eq_self (Bool.eq_false_iff.mpr fun hp' =>
            hno (List.any_eq_true.mpr ⟨p, hp, hp'⟩)), id]

/-- Nothing but the query is touched, and that only if there is one. -/
lemma redact_rest (u : Url) :
    redact u = { u with query := (redact u).query } ∧
      (redact u).query.isSome = u.query.isSome := by
  cases hq : u.query with
  | none =>
    have hredact : redact u = u := by rw [redact, hq]
    rw [hredact]
    exact ⟨rfl, by rw [hq]⟩
  | some q =>
    rw [redact_of_some hq]
    split
    · exact ⟨rfl, rfl⟩
    · exact ⟨rfl, by rw [hq]⟩

/-- **What masking does.**  Read by whoever uses it, the query of the masked URL has the parameters
of the query in their order, with the mask for the value where the name is `sig` in any letter case
and written without escapes, and with its own value elsewhere; the rest of the URL is the same. -/
theorem redact_parameters (u : Url) (h : u.IsEncoded) :
    redact u = { u with query := (redact u).query } ∧
      (redact u).query.isSome = u.query.isSome ∧
      pairs ((redact u).query.getD "").toList =
        ((pieces (u.query.getD "").toList).filter (! ·.isEmpty)).map fun piece =>
          if IsPlainSignature piece then ((pair piece).1, "REDACTED") else pair piece := by
  obtain ⟨hrest, hsome⟩ := redact_rest u
  refine ⟨hrest, hsome, ?_⟩
  rw [pairs, h.pieces_redact, List.filter_map, List.map_map]
  have hfilter : (fun piece : List Char => ! piece.isEmpty) ∘ maskPiece =
      fun piece => ! piece.isEmpty := by
    funext piece
    rw [Function.comp_apply, isEmpty_maskPiece]
  rw [hfilter]
  refine List.map_congr_left fun piece hpiece => ?_
  have hascii := h.lt_of_mem_piece (List.mem_of_mem_filter hpiece)
  rw [Function.comp_apply, pair_maskPiece]
  simp only [holdsSignature_iff hascii]

/-- The URL of a queue on this machine with a query. -/
def loopback (query : String) : Url :=
  ⟨"http", "", "", some (.ipv6 [0, 0, 0, 0, 0, 0, 0, 1]), none, "/q", some query, none⟩

/-- A plain signature in capital letters, one that is not written plainly, and other parameters. -/
theorem redact_parameters_loopback :
    parse "http://[::1]/q?SIG=a&se=b+c&&%73ig=d" = .ok (loopback "SIG=a&se=b+c&&%73ig=d") ∧
      (loopback "SIG=a&se=b+c&&%73ig=d").IsEncoded ∧
      pairs ((redact (loopback "SIG=a&se=b+c&&%73ig=d")).query.getD "").toList =
        [("SIG", "REDACTED"), ("se", "b c"), ("sig", "d")] := by
  have hread : parse "http://[::1]/q?SIG=a&se=b+c&&%73ig=d" =
      .ok (loopback "SIG=a&se=b+c&&%73ig=d") := by decide +kernel
  have h := isEncoded_of_parse hread
  have hpieces : (pieces ((loopback "SIG=a&se=b+c&&%73ig=d").query.getD "").toList).filter
      (! ·.isEmpty) = ["SIG=a".toList, "se=b+c".toList, "%73ig=d".toList] := by decide
  have hcapital : pair "SIG=a".toList = ("SIG", "a") := by cbv
  have hother : pair "se=b+c".toList = ("se", "b c") := by cbv
  have hescaped : pair "%73ig=d".toList = ("sig", "d") := by cbv
  refine ⟨hread, h, ?_⟩
  rw [(redact_parameters _ h).2.2, hpieces]
  simp only [List.map_cons, List.map_nil, IsPlainSignature, ReadsAsSignature, hcapital, hother,
    hescaped]
  decide

/-- **A signature is shown** if its name is written with an escape: it is read as any other, and
masking leaves it. -/
theorem exists_signature_shown :
    parse "http://[::1]/q?%73ig=secret" = .ok (loopback "%73ig=secret") ∧
      ∃ p ∈ pairs ((redact (loopback "%73ig=secret")).query.getD "").toList,
        Text.asciiLowercase p.1 = "sig" ∧ p.2 = "secret" := by
  have hpairs : pairs ((redact (loopback "%73ig=secret")).query.getD "").toList =
      [("sig", "secret")] := by cbv
  rw [hpairs]
  exact ⟨by decide +kernel, ("sig", "secret"), List.mem_singleton_self _, by cbv, rfl⟩

end Url

end QueueClient
