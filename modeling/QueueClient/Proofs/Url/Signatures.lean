/-
# URLs that differ in signatures

Two URLs may differ in the signatures in their queries and in nothing else
(`Url.SameButSignatures`): piece by piece, the queries are the same or both give a signature, each
a value of its own, behind the same name.  A value may be anything that does not end the piece, also
nothing.

Setting a server timeout keeps this so (`SameButSignatures.setServerTimeout`), as a piece with a
signature is no timeout and its name and the sign behind it are not encoded.  With the signatures
masked the URLs are the same (`SameButSignatures.redact_eq`).
-/
import QueueClient.Proofs.Url.Pieces
import QueueClient.Stage.RequestLog

namespace QueueClient

namespace Query

variable {name value p p' : List Char}

/-- The name is that of signatures, in any letter case. -/
def IsSignatureName (name : List Char) : Prop := name.map Char.toLower = RequestLog.signatureName

/-- The pieces are the same, or both give a signature behind the same name. -/
inductive SameButSignature : List Char → List Char → Prop where
  | same (piece : List Char) : SameButSignature piece piece
  | signature {name : List Char} (h : IsSignatureName name) (value value' : List Char) :
    SameButSignature (name ++ '=' :: value) (name ++ '=' :: value')

/-! ## Names of signatures -/

lemma IsSignatureName.isAlphanum (h : IsSignatureName name) :
    ∀ c ∈ name, c.isAlphanum = true := by
  intro c hc
  have hlower : c.toLower ∈ RequestLog.signatureName := by
    rw [← h]
    exact List.mem_map_of_mem hc
  have hletters : RequestLog.signatureName.all Char.isAlphanum = true := by decide
  by_cases hupper : c.isUpper = true
  · change (c.isUpper || c.isLower || c.isDigit) = true
    rw [hupper, Bool.true_or, Bool.true_or]
  · -- what is no capital is its own small letter
    have hself : c.toLower = c := dif_neg fun hcapital => hupper (decide_eq_true hcapital)
    rw [← hself]
    exact List.all_eq_true.mp hletters _ hlower

lemma IsSignatureName.not_mem_equals (h : IsSignatureName name) : '=' ∉ name := by
  intro hmem
  have halnum := h.isAlphanum '=' hmem
  cases halnum

/-- The name has a first letter, which is not that of a timeout. -/
lemma IsSignatureName.eq_cons (h : IsSignatureName name) :
    ∃ c rest, name = c :: rest ∧ c ≠ 't' := by
  cases name with
  | nil => cases h
  | cons c rest =>
    refine ⟨c, rest, rfl, ?_⟩
    rintro rfl
    have hfirst : ('t' : Char).toLower = 's' := (List.cons.inj h).1
    revert hfirst
    decide

/-! ## What is read of a piece -/

/-- A piece is cut at its first sign. -/
lemma split_append (h : '=' ∉ name) (value : List Char) :
    split (name ++ '=' :: value) = (name, some value) := by
  have hname : ∀ c ∈ name, decide (c ≠ '=') = true := by
    intro c hc
    rw [decide_eq_true_iff]
    rintro rfl
    exact h hc
  have hspan : (name ++ '=' :: value).span (· ≠ '=') = (name, '=' :: value) := by
    rw [List.span_eq_takeWhile_dropWhile, List.takeWhile_append_of_pos hname,
      List.dropWhile_append_of_pos hname]
    simp
  rw [split, hspan]

lemma holdsSignature_signature (h : IsSignatureName name) (value : List Char) :
    RequestLog.holdsSignature (name ++ '=' :: value) = true := by
  rw [RequestLog.holdsSignature, split_append h.not_mem_equals]
  exact beq_iff_eq.mpr h

lemma maskPiece_signature (h : IsSignatureName name) (value : List Char) :
    RequestLog.maskPiece (name ++ '=' :: value) = name ++ '=' :: RequestLog.mask := by
  rw [RequestLog.maskPiece, split_append h.not_mem_equals]
  exact if_pos h

/-- A signature is no timeout. -/
lemma isForeignPiece_signature (h : IsSignatureName name) (value : List Char) :
    isForeignPiece (name ++ '=' :: value) = true := by
  obtain ⟨c, rest, rfl, hc⟩ := h.eq_cons
  have hne : ((c :: rest) ++ '=' :: value) ≠ "timeout".toList := by
    intro heq
    exact hc (List.cons.inj heq).1
  have hno : "timeout=".toList.isPrefixOf ((c :: rest) ++ '=' :: value) = false := by
    rw [← Bool.not_eq_true, List.isPrefixOf_iff_prefix]
    rintro ⟨behind, heq⟩
    exact hc (List.cons.inj heq).1.symm
  rw [isForeignPiece, hno, bne_iff_ne.mpr hne]
  rfl

/-- A signature is encoded behind its name. -/
lemma encodeQuery_signature (special : Bool) (h : IsSignatureName name) (value : List Char) :
    Url.encodeQuery special (name ++ '=' :: value) =
      name ++ '=' :: Url.encodeQuery special value := by
  have hname : Url.encodeQuery special name = name := Url.encodeQuery_eq_self fun c hc =>
    Url.encodeChar_of_isAlphanum (h.isAlphanum c hc) special
  rw [Url.encodeQuery_append, hname, Url.encodeQuery_cons_of_kept (Url.encodeChar_equals special)]

namespace SameButSignature

lemma holdsSignature_eq (h : SameButSignature p p') :
    RequestLog.holdsSignature p' = RequestLog.holdsSignature p := by
  cases h with
  | same piece => rfl
  | signature hname value value' =>
    rw [holdsSignature_signature hname, holdsSignature_signature hname]

lemma maskPiece_eq (h : SameButSignature p p') :
    RequestLog.maskPiece p' = RequestLog.maskPiece p := by
  cases h with
  | same piece => rfl
  | signature hname value value' => rw [maskPiece_signature hname, maskPiece_signature hname]

/-- Without signatures there is no difference. -/
lemma eq_of_holdsSignature (h : SameButSignature p p')
    (hno : RequestLog.holdsSignature p = false) : p' = p := by
  cases h with
  | same piece => rfl
  | signature hname value value' =>
    rw [holdsSignature_signature hname] at hno
    cases hno

lemma isForeignPiece_iff (h : SameButSignature p p') :
    isForeignPiece p = true ↔ isForeignPiece p' = true := by
  cases h with
  | same piece => rfl
  | signature hname value value' =>
    rw [isForeignPiece_signature hname, isForeignPiece_signature hname]

lemma encodeQuery (special : Bool) (h : SameButSignature p p') :
    SameButSignature (Url.encodeQuery special p) (Url.encodeQuery special p') := by
  cases h with
  | same piece => exact .same _
  | signature hname value value' =>
    rw [encodeQuery_signature special hname, encodeQuery_signature special hname]
    exact .signature hname _ _

end SameButSignature

/-- What does not depend on signatures is the same for all pieces. -/
lemma map_eq_of_sameButSignature {α : Type} {f : List Char → α}
    (hf : ∀ p p', SameButSignature p p' → f p' = f p) {ps ps' : List (List Char)}
    (h : List.Forall₂ SameButSignature ps ps') : ps'.map f = ps.map f := by
  induction h with
  | nil => rfl
  | cons hp _ ih => rw [List.map_cons, List.map_cons, hf _ _ hp, ih]

/-- Pieces without signatures are the same. -/
lemma eq_of_sameButSignature {ps ps' : List (List Char)}
    (h : List.Forall₂ SameButSignature ps ps')
    (hno : ps.any RequestLog.holdsSignature = false) : ps' = ps := by
  induction h with
  | nil => rfl
  | cons hp _ ih =>
    rw [List.any_cons, Bool.or_eq_false_iff] at hno
    rw [hp.eq_of_holdsSignature hno.1, ih hno.2]

/-- The pieces of two queries are the same but for signatures. -/
abbrev SamePieces (q q' : String) : Prop :=
  List.Forall₂ SameButSignature (pieces q.toList) (pieces q'.toList)

end Query

/-! ## URLs -/

/-- The URLs differ in the values of signatures in their queries only. -/
structure Url.SameButSignatures (u u' : Url) : Prop where
  rest : u' = { u with query := u'.query }
  query : Option.Rel Query.SamePieces u.query u'.query

namespace Url.SameButSignatures

open Query

variable {u u' : Url}

/-- Nothing is read where there is no query. -/
lemma samePieces (h : u.SameButSignatures u') :
    SamePieces (u.query.getD "") (u'.query.getD "") := by
  obtain ⟨-, hquery⟩ := h
  generalize u.query = q at hquery
  generalize u'.query = q' at hquery
  cases hquery with
  | none => exact .cons (.same []) .nil
  | some hpieces => exact hpieces

/-- **Signatures stay the only difference when a server timeout is set.** -/
theorem setServerTimeout (h : u.SameButSignatures u') (budget : Duration) :
    (u.setServerTimeout budget).SameButSignatures (u'.setServerTimeout budget) := by
  have hscheme : u'.scheme = u.scheme := by rw [h.rest]
  have hforeign : List.Forall₂ SameButSignature
      ((pieces (u.query.getD "").toList).filter isForeignPiece)
      ((pieces (u'.query.getD "").toList).filter isForeignPiece) :=
    List.rel_filter (fun _ _ hp => hp.isForeignPiece_iff) h.samePieces
  have hencoded : List.Forall₂ SameButSignature
      (pieces ((u.setServerTimeout budget).query.getD "").toList)
      (pieces ((u'.setServerTimeout budget).query.getD "").toList) := by
    rw [pieces_setServerTimeout, pieces_setServerTimeout, hscheme]
    refine List.rel_append (List.rel_map (fun _ _ hp => hp.encodeQuery _) hforeign) ?_
    exact .cons (.same _) .nil
  refine ⟨?_, .some hencoded⟩
  rw [Url.setServerTimeout, Url.setQuery, Url.setServerTimeout, Url.setQuery, h.rest]

/-- **With the signatures masked there is no difference.** -/
theorem redact_eq (h : u.SameButSignatures u') :
    RequestLog.redact u' = RequestLog.redact u := by
  obtain ⟨hrest, hquery⟩ := h
  generalize hq : u.query = q at hquery
  generalize hq' : u'.query = q' at hquery hrest
  cases hquery with
  | none =>
    have hsame : u' = u := by rw [hrest, ← hq]
    rw [hsame]
  | @some q q' hpieces =>
    have hmasked : (pieces q'.toList).map RequestLog.maskPiece =
        (pieces q.toList).map RequestLog.maskPiece :=
      map_eq_of_sameButSignature (fun _ _ hp => hp.maskPiece_eq) hpieces
    have hholds : (pieces q'.toList).any RequestLog.holdsSignature =
        (pieces q.toList).any RequestLog.holdsSignature := by
      have hmap := map_eq_of_sameButSignature (fun _ _ hp => hp.holdsSignature_eq) hpieces
      have hany := congrArg (fun l => l.any id) hmap
      rwa [List.any_map, List.any_map] at hany
    rw [RequestLog.redact, RequestLog.redact, hq, hq']
    simp only [hholds, hmasked]
    split
    · rw [Url.setQuery, Url.setQuery, hrest]
    · rename_i hno
      have hpieces' : pieces q'.toList = pieces q.toList :=
        eq_of_sameButSignature hpieces (Bool.eq_false_iff.mpr hno)
      have hqq : q' = q := by
        rw [← String.toList_inj, ← join_pieces q'.toList, hpieces', join_pieces]
      rw [hrest, hqq, ← hq]

end Url.SameButSignatures

end QueueClient
