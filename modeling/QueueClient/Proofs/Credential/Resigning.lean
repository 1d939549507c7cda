/-
# Signing again

A request that is tried again, or that passes a second pipeline, is signed when it carries a date and
a signature already.  Signing sets these two headers and leaves everything else alone
(`IsSigned.sameButStamps`), the date before the text is made and the signature after it, and the
header with the signature is no part of the text.  So what an earlier signing has left shows nowhere
(`SameButStamps.signed`), and after any number of signings the request is what the last one alone
makes of it (`signEach_last`).
-/
import QueueClient.Proofs.Credential.Signing

namespace QueueClient

/-- The requests are the same; headers count as values under names, in whatever order the names came
in. -/
structure Request.IsSame (q r : Request) : Prop where
  method : q.method = r.method
  url : q.url = r.url
  body : q.body = r.body
  generatedId : q.generatedId = r.generatedId
  headers : ∀ name, q.headers.values name = r.headers.values name

namespace Signature

variable {account : String} {key : List UInt8} {time : ℤ} {p q r : Request}

/-- The requests differ in their dates and signatures at most. -/
structure SameButStamps (q r : Request) : Prop where
  method : q.method = r.method
  url : q.url = r.url
  body : q.body = r.body
  generatedId : q.generatedId = r.generatedId
  others : ∀ name, name ≠ dateHeader → name ≠ authorizationHeader →
    q.headers.values name = r.headers.values name

namespace SameButStamps

lemma refl (r : Request) : SameButStamps r r := ⟨rfl, rfl, rfl, rfl, fun _ _ _ => rfl⟩

lemma trans (h : SameButStamps p q) (h' : SameButStamps q r) : SameButStamps p r where
  method := h.method.trans h'.method
  url := h.url.trans h'.url
  body := h.body.trans h'.body
  generatedId := h.generatedId.trans h'.generatedId
  others := fun name hdate hauth => (h.others name hdate hauth).trans (h'.others name hdate hauth)

/-- With the same date on them the requests agree in all that is signed: of the two headers in which
they may differ, one is the date and the other is not covered. -/
lemma isAlike_stamp (h : SameButStamps q r) (time : ℤ) :
    IsAlike (stamp time q) (stamp time r) where
  method := h.method
  url := h.url
  body := h.body
  headers := fun name hcovered => by
    by_cases hdate : name = dateHeader
    · rw [hdate, stamp, stamp, Headers.values_insert_self, Headers.values_insert_self]
    · have hauth : name ≠ authorizationHeader := by
        rintro rfl
        exact absurd hcovered (by decide)
      rw [stamp, stamp, Headers.values_insert_of_ne _ _ hdate,
        Headers.values_insert_of_ne _ _ hdate, h.others name hdate hauth]

/-- **Earlier stamps do not show in a signed request.** -/
theorem signed (h : SameButStamps q r) (account : String) (key : List UInt8) (time : ℤ) :
    (signed account key time q).IsSame (signed account key time r) where
  method := h.method
  url := h.url
  body := h.body
  generatedId := h.generatedId
  headers := fun name => by
    have htext : authorizationText account key (stamp time q) =
        authorizationText account key (stamp time r) :=
      authorizationText_inj.mpr ((h.isAlike_stamp time).signature_eq account key)
    by_cases hauth : name = authorizationHeader
    · rw [hauth, Signature.signed, Signature.signed, Headers.values_insert_self,
        Headers.values_insert_self, htext]
    · rw [Signature.signed, Signature.signed, Headers.values_insert_of_ne _ _ hauth,
        Headers.values_insert_of_ne _ _ hauth]
      by_cases hdate : name = dateHeader
      · rw [hdate, stamp, stamp, Headers.values_insert_self, Headers.values_insert_self]
      · rw [stamp, stamp, Headers.values_insert_of_ne _ _ hdate,
          Headers.values_insert_of_ne _ _ hdate, h.others name hdate hauth]

end SameButStamps

/-- A signed request differs from the one that was signed in its stamps only. -/
lemma IsSigned.sameButStamps (h : IsSigned account key time r q) : SameButStamps q r :=
  ⟨h.method, h.url, h.body, h.generatedId, h.others⟩

/-- What is signed is also what was to be signed before, but for its stamps. -/
lemma IsSigned.of_sameButStamps (h : IsSigned account key time q p) (hq : SameButStamps q r) :
    IsSigned account key time r p where
  method := h.method.trans hq.method
  url := h.url.trans hq.url
  body := h.body.trans hq.body
  generatedId := h.generatedId.trans hq.generatedId
  date := h.date
  authorization := h.authorization
  others := fun name hdate hauth =>
    (h.others name hdate hauth).trans (hq.others name hdate hauth)

/-- A signing: the key that the account has then, and the time. -/
structure Signing where
  /-- The key. -/
  key : List UInt8
  /-- The Unix time. -/
  time : ℤ

/-- The request signed by an account time and again. -/
def signEach (account : String) : List Signing → Request → Except Error Request
  | [], r => .ok r
  | s :: rest, r =>
    match signAt account s.key s.time r with
    | .ok q => signEach account rest q
    | .error e => .error e

lemma signAt_eq_ok (haccount : isValueText account = true) (key : List UInt8) (time : ℤ)
    (r : Request) : signAt account key time r = .ok (signed account key time r) := by
  rw [signAt_eq, if_pos haccount]

/-- A signing in front of others leaves its stamps only. -/
lemma signEach_cons (haccount : isValueText account = true) (s : Signing) (rest : List Signing)
    (r : Request) :
    signEach account (s :: rest) r = signEach account rest (signed account s.key s.time r) := by
  simp only [signEach, signAt_eq_ok haccount]

/-- **The last signing wins.**  An account whose name a header can hold signs a request any number
of times, with whatever keys and at whatever times.  It comes to the request that the last signing
makes of the request as it was at first, whatever stamps that had: one date, one signature, which is
that of the signed request itself, and otherwise nothing that is new. -/
theorem signEach_last (haccount : isValueText account = true) (earlier : List Signing)
    (last : Signing) (r : Request) :
    ∃ q once, signEach account (earlier ++ [last]) r = .ok q ∧
      signAt account last.key last.time r = .ok once ∧ q.IsSame once ∧
      IsSigned account last.key last.time r q ∧ IsSigned account last.key last.time r once := by
  -- the stamps of the earlier signings are all that they leave
  have hearlier : ∀ p, SameButStamps p r → ∃ q, signEach account (earlier ++ [last]) p = .ok q ∧
      q.IsSame (signed account last.key last.time r) ∧
      IsSigned account last.key last.time r q := by
    induction earlier with
    | nil =>
      intro p hp
      refine ⟨signed account last.key last.time p, ?_, hp.signed account last.key last.time, ?_⟩
      · rw [List.nil_append, signEach_cons haccount]
        rfl
      · exact (isSigned_signed account last.key last.time p).of_sameButStamps hp
    | cons s earlier ih =>
      intro p hp
      obtain ⟨q, hq, hsame, hsigned⟩ :=
        ih _ ((isSigned_signed account s.key s.time p).sameButStamps.trans hp)
      exact ⟨q, by rw [List.cons_append, signEach_cons haccount, hq], hsame, hsigned⟩
  obtain ⟨q, hq, hsame, hsigned⟩ := hearlier r (.refl r)
  exact ⟨q, _, hq, signAt_eq_ok haccount _ _ r, hsame, hsigned, isSigned_signed _ _ _ r⟩

/-- A request that has two dates and two signatures already. -/
def stampedTwice : Request :=
  { method := "PUT"
    url := default
    headers := ⟨[("x-ms-date", Utf8.encode "then"), ("authorization", Utf8.encode "one"),
      ("x-ms-meta", Utf8.encode "kept"), ("x-ms-date", Utf8.encode "earlier"),
      ("authorization", Utf8.encode "another")]⟩
    body := .bytes [104, 105]
    generatedId := false }

/-- Such a request, signed with one key and again with another one a minute later. -/
theorem signEach_last_stampedTwice :
    isValueText "myaccount" = true ∧
      ∃ q once, signEach "myaccount" [⟨[1], 1714979289⟩, ⟨[2], 1714979349⟩] stampedTwice = .ok q ∧
        signAt "myaccount" [2] 1714979349 stampedTwice = .ok once ∧ q.IsSame once ∧
        IsSigned "myaccount" [2] 1714979349 stampedTwice q ∧
        IsSigned "myaccount" [2] 1714979349 stampedTwice once := by
  have haccount : isValueText "myaccount" = true := by decide +kernel
  exact ⟨haccount, signEach_last haccount [⟨[1], 1714979289⟩] ⟨[2], 1714979349⟩ stampedTwice⟩

end Signature

end QueueClient
