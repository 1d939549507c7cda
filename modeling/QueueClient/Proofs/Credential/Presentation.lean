/-
# What the order of a request does not change

A query is a list of pieces and a request a list of headers, but what is signed are values under
names: the parameters and the service headers are put in order of their names, and the values of one
parameter in order too.  So requests that were put together in another way are signed alike
(`signAt_rearranged`).  Two queries stand for the same parameters (`Query.Rearranged`) if one comes
from the other by moving pieces, by leaving out or putting in empty ones, and by writing a name with
letters of another case.

Names of one parameter may differ in case from piece to piece.  They fall together before the values
are sorted, so nothing shows which value came under which of them.
-/
import QueueClient.Proofs.Credential.ReadBack
import QueueClient.Proofs.Text.LetterCase

namespace QueueClient

namespace Query

variable {p p' : List Char} {ps qs : List (List Char)}

/-- The pieces stand for the same parameters, the order and the letter case of names aside. -/
inductive Rearranged : List (List Char) → List (List Char) → Prop where
  /-- The pieces in another order. -/
  | perm {ps qs : List (List Char)} (h : ps.Perm qs) : Rearranged ps qs
  /-- The pieces without an empty one. -/
  | empty (ps : List (List Char)) : Rearranged ([] :: ps) ps
  /-- A piece with a name that reads the same but for letter case, and with the same value. -/
  | respell {p p' : List Char} (hsome : p ≠ []) (hsome' : p' ≠ [])
    (hname : Text.asciiLowercase (pair p).1 = Text.asciiLowercase (pair p').1)
    (hvalue : (pair p).2 = (pair p').2) (ps : List (List Char)) : Rearranged (p :: ps) (p' :: ps)
  | symm {ps qs : List (List Char)} (h : Rearranged ps qs) : Rearranged qs ps
  | trans {ps qs rs : List (List Char)} (h : Rearranged ps qs) (h' : Rearranged qs rs) :
    Rearranged ps rs

/-- In particular the letters of a name may be written in another case, those of escapes too. -/
lemma Rearranged.recase (hsome : p ≠ []) (hsome' : p' ≠ [])
    (hname : (split p).1.map Char.toLower = (split p').1.map Char.toLower)
    (hvalue : (split p).2 = (split p').2) (ps : List (List Char)) :
    Rearranged (p :: ps) (p' :: ps) := by
  refine .respell hsome hsome' ?_ ?_ ps
  · change Text.asciiLowercase (decodePart (split p).1) =
      Text.asciiLowercase (decodePart (split p').1)
    rw [← asciiLowercase_decodePart_lower, hname, asciiLowercase_decodePart_lower]
  · change decodePart ((split p).2.getD []) = decodePart ((split p').2.getD [])
    rw [hvalue]

/-- **Rearranged pieces are signed as the same parameters**, up to their order. -/
lemma Rearranged.signedPairs (h : Rearranged ps qs) :
    ((ps.filter (! ·.isEmpty)).map Signature.signedPair).Perm
      ((qs.filter (! ·.isEmpty)).map Signature.signedPair) := by
  induction h with
  | perm h => exact (h.filter _).map _
  | empty ps => exact .refl _
  | respell hsome hsome' hname hvalue ps =>
    have hempty := List.isEmpty_eq_false_iff.mpr hsome
    have hempty' := List.isEmpty_eq_false_iff.mpr hsome'
    simp only [List.filter_cons, hempty, hempty', Bool.not_false, if_true, List.map_cons]
    rw [Signature.signedPair, Signature.signedPair, hvalue, Text.toLowercase_congr hname]
  | symm _ ih => exact ih.symm
  | trans _ _ ih ih' => exact ih.trans ih'

end Query

namespace Signature

variable {account : String} {key : List UInt8} {time : ℤ} {q r : Request} {u u' : Url}

/-- The requests differ in the order and the letter case of parameters and in the order in which
headers of different names came in, and in nothing else that is sent. -/
structure Rearranged (q r : Request) : Prop where
  method : q.method = r.method
  url : q.url = { r.url with query := q.url.query }
  query : Query.Rearranged (Query.pieces (q.url.query.getD "").toList)
    (Query.pieces (r.url.query.getD "").toList)
  headers : ∀ name, q.headers.values name = r.headers.values name
  body : q.body = r.body

/-! ## The resource -/

lemma parameterNames_congr (h : (parameters u).Perm (parameters u')) :
    parameterNames u = parameterNames u' := by
  refine mergeSort_eq_of_perm ?_
  rw [List.perm_ext_iff_of_nodup (nodup_eraseDups _) (nodup_eraseDups _)]
  intro name
  rw [List.mem_eraseDups, List.mem_eraseDups]
  exact (h.map _).mem_iff

lemma joinedParameter_congr (h : (parameters u).Perm (parameters u')) (name : String) :
    joinedParameter u name = joinedParameter u' name := by
  have hvalues : (parameterValues u name).Perm (parameterValues u' name) := (h.filter _).map _
  rw [joinedParameter, mergeSort_eq_of_perm hvalues, joinedParameter]

/-- **The resource is told by the path and the parameters**, in any order. -/
lemma resource_congr (account : String) (hpath : u.path = u'.path)
    (h : (parameters u).Perm (parameters u')) : resource account u = resource account u' := by
  have hlines : resourceLines u = resourceLines u' := by
    have hjoined : joinedParameter u = joinedParameter u' := funext (joinedParameter_congr h)
    rw [resourceLines, signedPath, hpath, parameterNames_congr h, hjoined, resourceLines,
      signedPath]
  rw [resource_eq, hlines, resource_eq]

/-! ## The whole text -/

namespace Rearranged

lemma parameters (h : Rearranged q r) : (parameters q.url).Perm (parameters r.url) := by
  rw [parameters_eq_map, parameters_eq_map]
  exact h.query.signedPairs

/-- Requests that are rearranged are still so with the same date on them. -/
lemma stamp (h : Rearranged q r) (time : ℤ) : Rearranged (stamp time q) (stamp time r) where
  method := h.method
  url := h.url
  query := h.query
  headers := fun name => by
    by_cases hname : name = dateHeader
    · rw [hname]
      exact (Headers.values_insert_self _ _ _).trans (Headers.values_insert_self _ _ _).symm
    · exact (Headers.values_insert_of_ne _ _ hname).trans
        ((h.headers name).trans (Headers.values_insert_of_ne _ _ hname).symm)
  body := h.body

lemma stringToSign_eq (h : Rearranged q r) (account : String) :
    stringToSign account q = stringToSign account r := by
  -- the requests are alike but for the URL, of which only the resource is signed
  have halike : IsAlike q { r with url := q.url } :=
    { method := h.method, url := rfl, body := h.body, headers := fun name _ => h.headers name }
  have hpath : q.url.path = r.url.path := by rw [h.url]
  have hresource := resource_congr account hpath h.parameters
  rw [halike.stringToSign_eq account, Signature.stringToSign_eq, Signature.stringToSign_eq]
  exact congrArg (fun s => "\n".intercalate (frontLines r ++ [serviceHeaders r.headers, s]))
    hresource

lemma authorizationText_eq (h : Rearranged q r) (account : String) (key : List UInt8) :
    authorizationText account key q = authorizationText account key r := by
  rw [authorizationText_inj, signature, h.stringToSign_eq account, signature]

end Rearranged

/-- What the header with the signature holds after signing. -/
def authorizations (signed : Except Error Request) : Except Error (List HeaderValue) :=
  signed.map fun r => r.headers.values authorizationHeader

lemma authorizations_signAt (account : String) (key : List UInt8) (time : ℤ) (r : Request) :
    authorizations (signAt account key time r) =
      if isValueText account then
        .ok [Utf8.encode (authorizationText account key (stamp time r))]
      else .error (.credential ("invalid authorization header: " ++ HeaderFault.valueReason)) := by
  rw [signAt_eq]
  split
  · exact congrArg Except.ok (Headers.values_insert_self _ _ _)
  · rfl

/-- **Requests that are rearranged are signed alike**: they get the same one value for the header
with the signature, or the account cannot sign either of them. -/
theorem signAt_rearranged (account : String) (key : List UInt8) (time : ℤ) (h : Rearranged q r) :
    authorizations (signAt account key time q) = authorizations (signAt account key time r) ∧
      (isValueText account = true →
        ∃ v, authorizations (signAt account key time q) = .ok [v]) := by
  have htext := (h.stamp time).authorizationText_eq account key
  constructor
  · rw [authorizations_signAt, authorizations_signAt, htext]
  · intro haccount
    exact ⟨_, by rw [authorizations_signAt, if_pos haccount]⟩

/-- A request with two parameters whose names differ in case, and two service headers. -/
def tidy : Request :=
  { method := "GET"
    url := ⟨"https", "", "", some (.domain "one.example.net"), none, "/q", some "a=1&A=0&b=2", none⟩
    headers := ⟨[("x-ms-date", Utf8.encode "now"), ("x-ms-meta", Utf8.encode "one"),
      ("x-ms-meta", Utf8.encode "two")]⟩
    body := .empty
    generatedId := false }

/-- The same with parameters, names and headers in another order, and with an empty piece. -/
def untidy : Request :=
  { method := "GET"
    url :=
      ⟨"https", "", "", some (.domain "one.example.net"), none, "/q", some "b=2&&A=0&A=1", none⟩
    headers := ⟨[("x-ms-meta", Utf8.encode "one"), ("x-ms-meta", Utf8.encode "two"),
      ("x-ms-date", Utf8.encode "now")]⟩
    body := .empty
    generatedId := false }

lemma rearranged_tidy : Rearranged tidy untidy where
  method := rfl
  url := rfl
  query := by
    have hpieces : Query.pieces (tidy.url.query.getD "").toList =
        ["a=1".toList, "A=0".toList, "b=2".toList] := by decide
    have hpieces' : Query.pieces (untidy.url.query.getD "").toList =
        ["b=2".toList, [], "A=0".toList, "A=1".toList] := by decide
    have hcase : Query.Rearranged ["a=1".toList, "A=0".toList, "b=2".toList]
        ["A=1".toList, "A=0".toList, "b=2".toList] :=
      .recase (by decide) (by decide) (by decide) (by decide) _
    have hmoved : Query.Rearranged ["A=1".toList, "A=0".toList, "b=2".toList]
        ["b=2".toList, "A=0".toList, "A=1".toList] := .perm (by decide)
    have hplaced : Query.Rearranged ([] :: ["b=2".toList, "A=0".toList, "A=1".toList])
        ["b=2".toList, [], "A=0".toList, "A=1".toList] := .perm (by decide)
    rw [hpieces, hpieces']
    exact (hcase.trans hmoved).trans ((Query.Rearranged.empty _).symm.trans hplaced)
  headers := fun name => by
    by_cases hdate : name = "x-ms-date"
    · rw [hdate]
      rfl
    · by_cases hmeta : name = "x-ms-meta"
      · rw [hmeta]
        rfl
      · simp [Headers.values, tidy, untidy, Ne.symm hdate, Ne.symm hmeta]
  body := rfl

theorem signAt_rearranged_tidy :
    Rearranged tidy untidy ∧ isValueText "myaccount" = true ∧
      authorizations (signAt "myaccount" [1] 0 tidy) =
        authorizations (signAt "myaccount" [1] 0 untidy) ∧
      ∃ v, authorizations (signAt "myaccount" [1] 0 tidy) = .ok [v] := by
  have haccount : isValueText "myaccount" = true := by decide +kernel
  obtain ⟨hsame, hsome⟩ := signAt_rearranged "myaccount" [1] 0 rearranged_tidy
  exact ⟨rearranged_tidy, haccount, hsame, hsome haccount⟩

end Signature

end QueueClient
