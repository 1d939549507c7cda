/-
# What a signature covers

The text that is signed is made of the method, the standard headers, the service headers, the
length of the body and the URL.  Headers with other names are not covered (`isCovered`), and the
header with the signature is one of them; so the signature that a request carries is the signature
of that very request (`signAt_spec`).

The key is the one that was stored last: along every run the key of the account is what the acts
so far have made it (`accountKey_eq_keyAfter`).
-/
import QueueClient.Credential.Basic
import QueueClient.Proofs.Activity.Runs

namespace QueueClient

/-- Texts are told apart by their bytes. -/
lemma Utf8.encode_inj {s t : String} : Utf8.encode s = Utf8.encode t ↔ s = t := by
  refine ⟨fun h => ?_, congrArg _⟩
  rw [← String.toByteArray_inj, ← String.utf8Encode_toList, ← String.utf8Encode_toList,
    List.utf8Encode, List.utf8Encode]
  exact congrArg List.toByteArray h

/-- There is a field of a name if there is a value. -/
lemma Headers.contains_eq (h : Headers) (name : String) :
    h.contains name = !(h.values name).isEmpty := by
  rw [Headers.contains, Headers.values, List.isEmpty_map]
  cases hany : h.fields.any (·.1 == name) with
  | false => simpa using hany
  | true => simpa using hany

namespace Signature

variable {account : String} {key : List UInt8} {time : ℤ} {r q : Request} {name : String}

/-- The standard headers that are signed. -/
def standardHeaders : List String :=
  ["content-encoding", "content-language", "content-length", "content-md5", "content-type"] ++
    laterHeaders

/-- Whether a header of this name is part of the text that is signed. -/
def isCovered (name : String) : Bool :=
  servicePrefix.toList.isPrefixOf name.toList || standardHeaders.contains name

/-- The requests agree in all that is signed. -/
structure IsAlike (q r : Request) : Prop where
  method : q.method = r.method
  url : q.url = r.url
  body : q.body = r.body
  headers : ∀ name, isCovered name = true → q.headers.values name = r.headers.values name

/-! ## The service headers -/

lemma nodup_eraseDups (l : List String) : l.eraseDups.Nodup := by
  induction hn : l.length using Nat.strong_induction_on generalizing l with
  | _ n ih =>
    cases l with
    | nil => exact List.nodup_nil
    | cons a as =>
      -- what is left behind the first name is what differs from it
      have hlen : (as.filter fun b => !b == a).length < n := by
        rw [← hn, List.length_cons]
        exact Nat.lt_succ_of_le (List.length_filter_le _ as)
      rw [List.eraseDups_cons, List.nodup_cons]
      refine ⟨fun hmem => ?_, ih _ hlen _ rfl⟩
      rw [List.mem_eraseDups, List.mem_filter] at hmem
      simp at hmem

lemma mem_names {h : Headers} : name ∈ h.names ↔ h.values name ≠ [] := by
  rw [Headers.names, List.mem_eraseDups, Headers.values, Ne, List.map_eq_nil_iff,
    List.filter_eq_nil_iff, List.mem_map]
  constructor
  · rintro ⟨x, hx, rfl⟩ hnone
    exact hnone x hx (beq_self_eq_true x.1)
  · intro hsome
    push Not at hsome
    obtain ⟨x, hx, hname⟩ := hsome
    exact ⟨x, hx, beq_iff_eq.mp hname⟩

lemma mem_serviceNames {h : Headers} :
    name ∈ serviceNames h ↔
      h.values name ≠ [] ∧ servicePrefix.toList.isPrefixOf name.toList = true := by
  rw [serviceNames, List.mem_mergeSort, List.mem_filter, mem_names]

lemma nodup_serviceNames (h : Headers) : (serviceNames h).Nodup := by
  rw [serviceNames, (List.mergeSort_perm _ _).nodup_iff]
  exact (nodup_eraseDups _).filter _

/-- Sorted texts are in order. -/
lemma pairwise_mergeSort (l : List String) :
    (l.mergeSort fun a b => a ≤ b).Pairwise (· ≤ ·) := by
  refine (List.pairwise_mergeSort (fun a b c hab hbc => ?_) (fun a b => ?_) _).imp
    fun {a b} hab => of_decide_eq_true hab
  · exact decide_eq_true (String.le_trans (of_decide_eq_true hab) (of_decide_eq_true hbc))
  · rw [Bool.or_eq_true, decide_eq_true_iff, decide_eq_true_iff]
    exact String.le_total a b

/-- The order before sorting does not count. -/
lemma mergeSort_eq_of_perm {l l' : List String} (h : l.Perm l') :
    (l.mergeSort fun a b => a ≤ b) = l'.mergeSort fun a b => a ≤ b :=
  List.Perm.eq_of_pairwise (fun _ _ _ _ hab hba => String.le_antisymm hab hba)
    (pairwise_mergeSort l) (pairwise_mergeSort l')
    ((List.mergeSort_perm l _).trans (h.trans (List.mergeSort_perm l' _).symm))

lemma pairwise_serviceNames (h : Headers) : (serviceNames h).Pairwise (· ≤ ·) :=
  pairwise_mergeSort _

/-- Texts that are in order already are not moved. -/
lemma mergeSort_eq_self {l : List String} (h : l.Pairwise (· ≤ ·)) :
    (l.mergeSort fun a b => a ≤ b) = l :=
  List.mergeSort_of_pairwise (h.imp fun hab => decide_eq_true hab)

lemma serviceNames_eq {h : Headers} {names : List String}
    (hnames : (h.names.filter fun n => servicePrefix.toList.isPrefixOf n.toList) = names)
    (hsorted : names.Pairwise (· ≤ ·)) : serviceNames h = names := by
  rw [serviceNames, hnames, mergeSort_eq_self hsorted]

/-- The order in which headers came in does not count: a sorted list without duplicates is told
by its members. -/
lemma serviceNames_congr {h h' : Headers}
    (hvalues : ∀ name, servicePrefix.toList.isPrefixOf name.toList = true →
      h.values name = h'.values name) : serviceNames h = serviceNames h' := by
  refine List.Perm.eq_of_pairwise (fun a b _ _ hab hba => String.le_antisymm hab hba)
    (pairwise_serviceNames h) (pairwise_serviceNames h') ?_
  rw [List.perm_ext_iff_of_nodup (nodup_serviceNames h) (nodup_serviceNames h')]
  intro name
  rw [mem_serviceNames, mem_serviceNames, and_congr_left_iff]
  intro hprefix
  rw [hvalues name hprefix]

lemma serviceHeaders_congr {h h' : Headers}
    (hvalues : ∀ name, servicePrefix.toList.isPrefixOf name.toList = true →
      h.values name = h'.values name) : serviceHeaders h = serviceHeaders h' := by
  rw [serviceHeaders, serviceHeaders, serviceNames_congr hvalues]
  congr 1
  refine List.map_congr_left fun name hname => ?_
  rw [serviceLine, serviceLine, hvalues name (mem_serviceNames.mp hname).2]

/-! ## The text that is signed -/

lemma isCovered_of_service (h : servicePrefix.toList.isPrefixOf name.toList = true) :
    isCovered name = true := by
  rw [isCovered, h, Bool.true_or]

lemma isCovered_of_mem (h : name ∈ standardHeaders) : isCovered name = true := by
  rw [isCovered, List.contains_iff_mem.mpr h, Bool.or_true]

/-- **What is signed is told by the values of the covered headers**, besides the method, the URL and
the body. -/
theorem IsAlike.stringToSign_eq (account : String) (h : IsAlike q r) :
    stringToSign account q = stringToSign account r := by
  have htext : ∀ n ∈ standardHeaders, q.headers.text? n = r.headers.text? n := by
    intro n hmem
    rw [Headers.text?, Headers.get?, h.headers n (isCovered_of_mem hmem), Headers.text?,
      Headers.get?]
  have hheader : ∀ n ∈ standardHeaders, headerText q.headers n = headerText r.headers n := by
    intro n hmem
    rw [headerText, htext n hmem, headerText]
  have hlater : laterHeaders.map (headerText q.headers) = laterHeaders.map (headerText r.headers) :=
    List.map_congr_left fun n hmem => hheader n (List.mem_append_right _ hmem)
  have hlength : contentLength q = contentLength r := by
    rw [contentLength, contentLength, htext "content-length" (by decide), h.body]
  have hservice : serviceHeaders q.headers = serviceHeaders r.headers :=
    serviceHeaders_congr fun n hprefix => h.headers n (isCovered_of_service hprefix)
  simp only [stringToSign, hlater, hlength, hservice, h.method, h.url,
    hheader "content-encoding" (by decide), hheader "content-language" (by decide),
    hheader "content-md5" (by decide), hheader "content-type" (by decide)]

lemma IsAlike.signature_eq (account : String) (key : List UInt8) (h : IsAlike q r) :
    signature account key q = signature account key r := by
  rw [signature, h.stringToSign_eq account, signature]

/-- A header can be set on both sides. -/
lemma IsAlike.insert (h : IsAlike q r) (name : String) (v : HeaderValue) :
    IsAlike { q with headers := q.headers.insert name v }
      { r with headers := r.headers.insert name v } where
  method := h.method
  url := h.url
  body := h.body
  headers := fun n hcovered => by
    by_cases hn : n = name
    · rw [hn, Headers.values_insert_self, Headers.values_insert_self]
    · rw [Headers.values_insert_of_ne _ _ hn, Headers.values_insert_of_ne _ _ hn,
        h.headers n hcovered]

/-- A header that is not covered can be set without changing what is signed. -/
lemma IsAlike.of_insert (r : Request) (v : HeaderValue) (hn : isCovered name = false) :
    IsAlike { r with headers := r.headers.insert name v } r where
  method := rfl
  url := rfl
  body := rfl
  headers := fun n hcovered => Headers.values_insert_of_ne _ _ fun heq => by
    rw [heq, hn] at hcovered
    cases hcovered

/-! ## Signing -/

/-- The header with the signature of a request: the keyed hash of the text that is signed. -/
def authorizationText (account : String) (key : List UInt8) (r : Request) : String :=
  "SharedKey " ++ account ++ ":" ++
    String.ofList (Base64.encode (Hmac.code key (Utf8.encode (stringToSign account r))))

lemma authorizationText_eq_append (account : String) (key : List UInt8) (r : Request) :
    authorizationText account key r = "SharedKey " ++ account ++ ":" ++ signature account key r :=
  rfl

lemma authorizationText_inj :
    authorizationText account key q = authorizationText account key r ↔
      signature account key q = signature account key r := by
  rw [authorizationText_eq_append, authorizationText_eq_append, String.append_right_inj]

/-- The request `q` is `r` signed at a time: it carries the date and the signature of itself, each
as the only value of its header, and is `r` otherwise. -/
structure IsSigned (account : String) (key : List UInt8) (time : ℤ) (r q : Request) : Prop where
  method : q.method = r.method
  url : q.url = r.url
  body : q.body = r.body
  generatedId : q.generatedId = r.generatedId
  date : q.headers.values dateHeader = [Utf8.encode (Calendar.headerDate time)]
  authorization : q.headers.values authorizationHeader =
    [Utf8.encode (authorizationText account key q)]
  others : ∀ name, name ≠ dateHeader → name ≠ authorizationHeader →
    q.headers.values name = r.headers.values name

lemma value?_eq_some {s : String} {v : HeaderValue} (h : Headers.value? s = some v) :
    v = Utf8.encode s := by
  rw [Headers.value?] at h
  split at h
  · exact (Option.some.inj h).symm
  · cases h

/-- The text can be the value of a header. -/
def isValueText (s : String) : Bool := (Utf8.encode s).all Headers.isValueByte

lemma isValueText_append (s t : String) :
    isValueText (s ++ t) = (isValueText s && isValueText t) := by
  rw [isValueText, Utf8.encode, String.toList_append, List.flatMap_append, List.all_append,
    isValueText, Utf8.encode, isValueText, Utf8.encode]

lemma isValueText_ofList (cs : List Char) :
    isValueText (String.ofList cs) =
      cs.all fun c => (String.utf8EncodeChar c).all Headers.isValueByte := by
  rw [isValueText, Utf8.encode, String.toList_ofList, List.all_flatMap]

lemma all_isValueByte_digit (n : ℕ) :
    (String.utf8EncodeChar (Base64.digit n)).all Headers.isValueByte = true := by
  by_cases hn : n < 63
  · exact (by decide : ∀ n < 63,
      (String.utf8EncodeChar (Base64.digit n)).all Headers.isValueByte = true) n hn
  · have hslash : Base64.digit n = '/' := by
      rw [Base64.digit, if_neg (by omega), if_neg (by omega), if_neg (by omega),
        if_neg (by omega)]
    rw [hslash]
    decide

lemma isValueText_signature (account : String) (key : List UInt8) (r : Request) :
    isValueText (signature account key r) = true := by
  rw [signature, isValueText_ofList]
  have hpad : (String.utf8EncodeChar '=').all Headers.isValueByte = true := by decide
  generalize Hmac.code key _ = bytes
  induction bytes using Base64.encode.induct with
  | case1 => rfl
  | case2 a => simp [Base64.encode, all_isValueByte_digit, hpad]
  | case3 a b => simp [Base64.encode, all_isValueByte_digit, hpad]
  | case4 a b c rest ih => simp [Base64.encode, all_isValueByte_digit, ih]

lemma isValueText_authorizationText (account : String) (key : List UInt8) (r : Request) :
    isValueText (authorizationText account key r) = isValueText account := by
  have hscheme : isValueText "SharedKey " = true := by decide +kernel
  have hcolon : isValueText ":" = true := by decide +kernel
  rw [authorizationText_eq_append, isValueText_append, isValueText_append, isValueText_append,
    hscheme,
    hcolon, isValueText_signature, Bool.true_and, Bool.and_true, Bool.and_true]

/-- The request with the date of a time and with its signature. -/
def signed (account : String) (key : List UInt8) (time : ℤ) (r : Request) : Request :=
  { stamp time r with
    headers := (stamp time r).headers.insert authorizationHeader
      (Utf8.encode (authorizationText account key (stamp time r))) }

/-- Signing fails only for accounts with names that no header can hold. -/
lemma signAt_eq (account : String) (key : List UInt8) (time : ℤ) (r : Request) :
    signAt account key time r =
      if isValueText account then .ok (signed account key time r)
      else .error (.credential ("invalid authorization header: " ++ HeaderFault.valueReason)) := by
  have hvalue : Headers.value? (authorizationText account key (stamp time r)) =
      if isValueText account then
        some (Utf8.encode (authorizationText account key (stamp time r))) else none := by
    rw [← isValueText_authorizationText account key (stamp time r)]
    rfl
  rw [authorizationText_eq_append] at hvalue
  rw [signAt, authorize, hvalue]
  cases isValueText account <;> rfl

lemma isSigned_signed (account : String) (key : List UInt8) (time : ℤ) (r : Request) :
    IsSigned account key time r (signed account key time r) where
  method := rfl
  url := rfl
  body := rfl
  generatedId := rfl
  date := by
    rw [signed, Headers.values_insert_of_ne _ _ (by decide)]
    exact Headers.values_insert_self _ _ _
  authorization := by
    have hself : signature account key (signed account key time r) =
        signature account key (stamp time r) :=
      (IsAlike.of_insert (stamp time r) _ (by decide)).signature_eq account key
    rw [signed, Headers.values_insert_self, ← signed, authorizationText_inj.mpr hself]
  others := fun name hdate hauth => by
    rw [signed, Headers.values_insert_of_ne _ _ hauth]
    exact Headers.values_insert_of_ne _ _ hdate

/-- **Signing signs what it returns.** -/
theorem signAt_spec (h : signAt account key time r = .ok q) :
    IsSigned account key time r q := by
  rw [signAt_eq] at h
  split at h
  · obtain rfl : signed account key time r = q := Except.ok.inj h
    exact isSigned_signed account key time r
  · cases h

end Signature

/-- A shared key that can sign does nothing but ask for the time and the key. -/
lemma Credential.sharedKey_eq {account : String} (epoch : ℤ)
    (h : Signature.isValueText account = true) :
    Credential.sharedKey account epoch =
      ⟨false, fun r => .act .now fun now => .act .accountKey fun key =>
        .done (.ok (Signature.signed account key (epoch + (now / 1_000_000_000 : ℕ)) r))⟩ := by
  simp only [Credential.sharedKey, Signature.signAt_eq, h, if_true]

/-! ## The key in use -/

/-- The key after some events, given the key before them. -/
def keyAfter (events : List Event) (key : List UInt8) : List UInt8 :=
  events.foldl (fun key e => match e with
    | .acts (.storeKey stored) _ => stored
    | _ => key) key

namespace Activity

variable {α : Type} {w v : World}

/-- Every event happens in a world with the key that the events before it have left. -/
def KeysTold : List Event → List UInt8 → Prop
  | [], _ => True
  | e :: events, key => e.world.accountKey = key ∧ KeysTold events (keyAfter [e] key)

lemma KeysTold.of_append {events : List Event} {e : Event} {rest : List Event} {key : List UInt8}
    (h : KeysTold (events ++ e :: rest) key) : e.world.accountKey = keyAfter events key := by
  induction events generalizing key with
  | nil => exact h.1
  | cons e' events ih => exact ih h.2

lemma keysTold_waits {worlds : List World} {events : List Event} {key : List UInt8}
    (hworlds : ∀ v ∈ worlds, v.accountKey = key) (h : KeysTold events key) :
    KeysTold (worlds.map .waits ++ events) key := by
  induction worlds with
  | nil => exact h
  | cons v worlds ih =>
    exact ⟨hworlds v List.mem_cons_self, ih fun u hu => hworlds u (List.mem_cons_of_mem v hu)⟩

lemma accountKey_of_passes (h : w.Passes v) : v.accountKey = w.accountKey := by
  rw [h.rest]

lemma accountKey_perform (a : Act) (w : World) :
    (w.perform a).2.accountKey = keyAfter [.acts a w] w.accountKey := by
  cases a <;> rfl

lemma keysTold_trace (p : Activity α) (w : World) : KeysTold (p.trace w) w.accountKey := by
  induction p generalizing w with
  | done a => trivial
  | act a k ih =>
    refine ⟨rfl, ?_⟩
    rw [← accountKey_perform]
    exact ih _ _
  | wait wake k ih =>
    -- a wait does not touch the key
    have hpause : ∀ v ∈ w.pause wake, v.accountKey = w.accountKey := fun v hv =>
      accountKey_of_passes (World.passes_of_mem_pause hv)
    refine keysTold_waits hpause ?_
    split
    · rename_i v hv
      rw [← accountKey_of_passes (World.passes_of_sleep hv)]
      exact ih v
    · trivial
  | never => exact ⟨rfl, trivial⟩
  | abort => trivial

/-- **The key of the account is the one that was stored last.** -/
theorem accountKey_eq_keyAfter {p : Activity α} {before after : List Event} {e : Event}
    (h : p.trace w = before ++ e :: after) : e.world.accountKey = keyAfter before w.accountKey := by
  have htold := keysTold_trace p w
  rw [h] at htold
  exact htold.of_append

end Activity

end QueueClient
