/-
# What a signed text tells

The text that is signed is nothing but lines.  Twelve lines are always there; behind them stand the
service headers, as many as there are, then the resource with its parameters.  Nothing marks where
one part ends and the next begins.  Still the text tells what was signed (`stringToSign_tells`), for
no part passes for another:

* whatever the headers hold, the first twelve lines hold no newline, so their places tell them;
* the line of a service header starts with its name and so never with a slash, while the resource
  does;
* no name of a header holds a colon, so the first colon of a line ends the name.

Parameters are free texts, and the sign that stands behind a name or a value may be part of it.
Where it is not (`HasPlainParameters`), the parameters are told up to their order.
-/
import QueueClient.Proofs.Credential.Signing
import QueueClient.Proofs.Text.Lines

namespace QueueClient.Signature

open Text (lines)

variable {account : String} {q r : Request} {h : Headers} {u u' : Url} {name : String}

/-- The signs that hold the lines together are not part of the method, of the names of headers and
of the path. -/
structure IsTyped (r : Request) : Prop where
  method : '\n' ∉ r.method.toList
  names : ∀ f ∈ r.headers.fields, ':' ∉ f.1.toList ∧ '\n' ∉ f.1.toList
  path : '\n' ∉ r.url.path.toList

/-- No sign that holds the lines of parameters together is part of the parameters. -/
def HasPlainParameters (u : Url) : Prop :=
  ∀ p ∈ Query.pairs (u.query.getD "").toList,
    (':' ∉ p.1.toList ∧ '\n' ∉ p.1.toList) ∧ ',' ∉ p.2.toList ∧ '\n' ∉ p.2.toList

instance (u : Url) : Decidable (HasPlainParameters u) :=
  inferInstanceAs (Decidable (∀ p ∈ Query.pairs (u.query.getD "").toList, _))

/-- The standard headers of which the text is signed. -/
def textHeaders : List String :=
  ["content-encoding", "content-language", "content-md5", "content-type"] ++ laterHeaders

/-- The values of a service header as they are signed: trimmed, between commas. -/
def joinedValues (h : Headers) (name : String) : String :=
  ",".intercalate ((h.values name).map fun v => Text.trim ((Headers.valueText? v).getD ""))

/-- The path that is signed. -/
def signedPath (u : Url) : String := if u.path.isEmpty then "/" else u.path

/-- The requests agree in what the signed text says of them, the parameters apart. -/
structure AgreeSigned (q r : Request) : Prop where
  method : q.method = r.method
  contentLength : contentLength q = contentLength r
  headers : ∀ name ∈ textHeaders, headerText q.headers name = headerText r.headers name
  services : ∀ name, servicePrefix.toList.isPrefixOf name.toList = true →
    q.headers.contains name = r.headers.contains name ∧
      joinedValues q.headers name = joinedValues r.headers name
  path : signedPath q.url = signedPath r.url

/-! ## Methods and names -/

lemma ne_of_isTokenChar {c : Char} (hc : Headers.isTokenChar c = true) : c ≠ ':' ∧ c ≠ '\n' := by
  constructor
  · rintro rfl
    exact absurd hc (by decide)
  · rintro rfl
    exact absurd hc (by decide)

lemma newline_not_mem_method {s m : String} (hm : method? s = some m) : '\n' ∉ m.toList := by
  rw [method?] at hm
  split at hm
  · cases hm
  · rename_i htoken
    obtain rfl : s = m := Option.some.inj hm
    simp only [Bool.or_eq_true, not_or, Bool.not_eq_true', Bool.not_eq_false] at htoken
    intro hmem
    exact (ne_of_isTokenChar (List.all_eq_true.mp htoken.2 _ hmem)).2 rfl

/-- A text that is a header name in lower case holds neither colons nor newlines. -/
lemma signs_not_mem_name {s : String} (hs : Headers.name? s = some s) :
    ':' ∉ s.toList ∧ '\n' ∉ s.toList := by
  rw [Headers.name?] at hs
  split at hs
  · cases hs
  · rename_i hchars
    simp only [Bool.or_eq_true, not_or, Bool.not_eq_true', Bool.not_eq_false] at hchars
    have hname : ∀ c ∈ s.toList, c ≠ ':' ∧ c ≠ '\n' := by
      intro c hc
      have hclass := List.all_eq_true.mp hchars.2 c hc
      rw [Headers.isNameChar, Bool.or_eq_true] at hclass
      rcases hclass with htoken | hquote
      · exact ne_of_isTokenChar htoken
      · rw [beq_iff_eq.mp hquote]
        decide
    exact ⟨fun hmem => (hname _ hmem).1 rfl, fun hmem => (hname _ hmem).2 rfl⟩

/-- What the types of methods and of header names guarantee. -/
lemma isTyped_of_names {s : String} (hmethod : method? s = some r.method)
    (hnames : ∀ f ∈ r.headers.fields, Headers.name? f.1 = some f.1)
    (hpath : '\n' ∉ r.url.path.toList) : IsTyped r where
  method := newline_not_mem_method hmethod
  names := fun f hf => signs_not_mem_name (hnames f hf)
  path := hpath

/-! ## Texts of headers -/

/-- No byte that can be read is a newline. -/
lemma ofNat_ne_newline {b : UInt8} (hb : Headers.isTextByte b = true) :
    Char.ofNat b.toNat ≠ '\n' := by
  have hbytes : ∀ n < 256, Headers.isTextByte (UInt8.ofNat n) = true → Char.ofNat n ≠ '\n' := by
    decide +kernel
  refine hbytes b.toNat b.toNat_lt ?_
  rw [UInt8.ofNat_toNat]
  exact hb

lemma newline_not_mem_valueText {v : HeaderValue} {s : String}
    (hv : Headers.valueText? v = some s) : '\n' ∉ s.toList := by
  rw [Headers.valueText?] at hv
  split at hv
  · rename_i htext
    obtain rfl := Option.some.inj hv
    rw [String.toList_ofList, List.mem_map]
    rintro ⟨b, hb, heq⟩
    exact ofNat_ne_newline (List.all_eq_true.mp htext b hb) heq
  · cases hv

lemma newline_not_mem_getD {o : Option String} (ho : ∀ s, o = some s → '\n' ∉ s.toList) :
    '\n' ∉ (o.getD "").toList := by
  cases o with
  | none => exact List.not_mem_nil
  | some s => exact ho s rfl

lemma newline_not_mem_text {s : String} (hs : h.text? name = some s) : '\n' ∉ s.toList := by
  rw [Headers.text?, Option.bind_eq_some_iff] at hs
  obtain ⟨v, -, hv⟩ := hs
  exact newline_not_mem_valueText hv

lemma newline_not_mem_headerText (h : Headers) (name : String) :
    '\n' ∉ (headerText h name).toList :=
  newline_not_mem_getD fun _ hs => newline_not_mem_text hs

lemma newline_not_mem_toString (n : ℕ) : '\n' ∉ (toString n).toList := by
  intro hmem
  rw [Nat.toString_eq_repr, Nat.repr_eq_ofList_toDigits, String.toList_ofList] at hmem
  exact absurd (Nat.isDigit_of_mem_toDigits (by decide) (by decide) hmem) (by decide)

lemma newline_not_mem_contentLength (r : Request) : '\n' ∉ (contentLength r).toList := by
  have hlength : ∀ s : String, '\n' ∉ s.toList → '\n' ∉ (if s = "0" then "" else s).toList := by
    intro s hs
    split
    · exact List.not_mem_nil
    · exact hs
  refine hlength _ ?_
  split
  · rename_i v hv
    exact newline_not_mem_text hv
  · split
    · exact newline_not_mem_toString _
    · exact List.not_mem_nil

lemma newline_not_mem_joinedValues (h : Headers) (name : String) :
    '\n' ∉ (joinedValues h name).toList := by
  intro hmem
  rcases Text.mem_intercalate hmem with hcomma | ⟨s, hs, hc⟩
  · exact absurd hcomma (by decide)
  · obtain ⟨v, -, rfl⟩ := List.mem_map.mp hs
    exact newline_not_mem_getD (fun _ hv => newline_not_mem_valueText hv) (Text.mem_of_mem_trim hc)

/-! ## The service headers -/

lemma serviceLine_eq (h : Headers) (name : String) :
    serviceLine h name = name ++ ":" ++ joinedValues h name := rfl

lemma IsTyped.name_of_mem_serviceNames (hr : IsTyped r) (hn : name ∈ serviceNames r.headers) :
    ':' ∉ name.toList ∧ '\n' ∉ name.toList := by
  have hvalues := (mem_serviceNames.mp hn).1
  rw [← mem_names, Headers.names, List.mem_eraseDups, List.mem_map] at hvalues
  obtain ⟨f, hf, rfl⟩ := hvalues
  exact hr.names f hf

lemma IsTyped.newline_not_mem_serviceLine (hr : IsTyped r) (hn : name ∈ serviceNames r.headers) :
    '\n' ∉ (serviceLine r.headers name).toList := by
  rw [serviceLine_eq, String.toList_append, String.toList_append, List.mem_append, List.mem_append,
    not_or, not_or]
  exact ⟨⟨(hr.name_of_mem_serviceNames hn).2, by decide⟩, newline_not_mem_joinedValues _ _⟩

/-- One line for each service header, and an empty one if there is none. -/
lemma IsTyped.lines_serviceHeaders (hr : IsTyped r) :
    lines (serviceHeaders r.headers) =
      if serviceNames r.headers = [] then [[]]
      else (serviceNames r.headers).map fun n => (serviceLine r.headers n).toList := by
  split
  · rename_i hnone
    rw [serviceHeaders, hnone]
    rfl
  · rename_i hsome
    rw [serviceHeaders, Text.lines_intercalate (by simpa using hsome), Text.flatMap_lines,
      List.map_map]
    · rfl
    · intro s hs
      obtain ⟨n, hn, rfl⟩ := List.mem_map.mp hs
      exact hr.newline_not_mem_serviceLine hn

lemma head?_serviceLine (hn : name ∈ serviceNames h) :
    (serviceLine h name).toList.head? = some 'x' := by
  obtain ⟨rest, hrest⟩ := List.isPrefixOf_iff_prefix.mp (mem_serviceNames.mp hn).2
  rw [serviceLine_eq, String.toList_append, String.toList_append, ← hrest]
  rfl

/-- No line of the service headers passes for the resource. -/
lemma IsTyped.head?_lines_serviceHeaders (hr : IsTyped r) :
    ∀ l ∈ lines (serviceHeaders r.headers), ¬l.head? = some '/' := by
  intro l hl
  rw [hr.lines_serviceHeaders] at hl
  split at hl
  · rw [List.mem_singleton.mp hl]
    decide
  · obtain ⟨n, hn, rfl⟩ := List.mem_map.mp hl
    rw [head?_serviceLine hn]
    decide

/-- The lines that are not empty are those of the service headers. -/
lemma IsTyped.filter_lines_serviceHeaders (hr : IsTyped r) :
    ((lines (serviceHeaders r.headers)).filter fun l => !l.isEmpty) =
      (serviceNames r.headers).map fun n => (serviceLine r.headers n).toList := by
  rw [hr.lines_serviceHeaders]
  split
  · rename_i hnone
    rw [hnone]
    rfl
  · rw [List.filter_eq_self]
    intro l hl
    obtain ⟨n, hn, rfl⟩ := List.mem_map.mp hl
    have hhead := head?_serviceLine hn
    cases hline : (serviceLine r.headers n).toList with
    | nil =>
      rw [hline] at hhead
      cases hhead
    | cons c l => rfl

/-- **The lines of the service headers tell which there are, and their values.** -/
lemma services_of_lines (hq : IsTyped q) (hr : IsTyped r)
    (hlines : lines (serviceHeaders q.headers) = lines (serviceHeaders r.headers))
    (hstart : servicePrefix.toList.isPrefixOf name.toList = true) :
    q.headers.contains name = r.headers.contains name ∧
      joinedValues q.headers name = joinedValues r.headers name := by
  have hmap := congrArg (fun ls => ls.filter fun l => !l.isEmpty) hlines
  simp only [hq.filter_lines_serviceHeaders, hr.filter_lines_serviceHeaders, serviceLine_eq] at hmap
  obtain ⟨hnames, hvalues⟩ := Text.keyed_inj
    (fun n hn => (hq.name_of_mem_serviceNames hn).1)
    (fun n hn => (hr.name_of_mem_serviceNames hn).1) hmap
  have hmem : q.headers.values name ≠ [] ↔ r.headers.values name ≠ [] := by
    have hiff : name ∈ serviceNames q.headers ↔ name ∈ serviceNames r.headers := by rw [hnames]
    rwa [mem_serviceNames, mem_serviceNames, and_congr_left_iff, imp_iff_right hstart] at hiff
  by_cases hname : q.headers.values name = []
  · have hname' : r.headers.values name = [] := not_not.mp fun hsome => hmem.mpr hsome hname
    rw [Headers.contains_eq, Headers.contains_eq, joinedValues, joinedValues, hname, hname']
    exact ⟨rfl, rfl⟩
  · have hname' := hmem.mp hname
    refine ⟨?_, hvalues name (mem_serviceNames.mpr ⟨hname, hstart⟩)⟩
    rw [Headers.contains_eq, Headers.contains_eq, List.isEmpty_eq_false_iff.mpr hname,
      List.isEmpty_eq_false_iff.mpr hname']

/-! ## The resource -/

/-- The names of the parameters, each once, in order. -/
def parameterNames (u : Url) : List String :=
  ((parameters u).map (·.1)).eraseDups.mergeSort fun a b => a ≤ b

/-- The values of a parameter, as they came in. -/
def parameterValues (u : Url) (name : String) : List String :=
  ((parameters u).filter (·.1 == name)).map (·.2)

/-- The parameter that a piece of a query stands for, as it is signed: its name in lower case and
its value. -/
def signedPair (piece : List Char) : String × String :=
  (Text.toLowercase (Query.pair piece).1, (Query.pair piece).2)

/-- The parameters come from the pieces that are not empty. -/
lemma parameters_eq_map (u : Url) :
    parameters u = ((Query.pieces (u.query.getD "").toList).filter (! ·.isEmpty)).map signedPair := by
  rw [parameters, Query.pairs, List.map_map]
  rfl

/-- The values of a parameter between commas, as they are signed. -/
def joinedParameter (u : Url) (name : String) : String :=
  ",".intercalate ((parameterValues u name).mergeSort fun a b => a ≤ b)

/-- The lines of the resource without the account. -/
def resourceLines (u : Url) : List String :=
  signedPath u :: (parameterNames u).map fun n => n ++ ":" ++ joinedParameter u n

lemma resource_eq (account : String) (u : Url) :
    resource account u = "/" ++ account ++ "\n".intercalate (resourceLines u) := by
  have hjoin : resource account u = "\n".intercalate (("/" ++ account ++ signedPath u) ::
      (parameterNames u).map fun n => n ++ ":" ++ joinedParameter u n) := rfl
  rw [hjoin, resourceLines, ← String.toList_inj]
  cases (parameterNames u).map fun n => n ++ ":" ++ joinedParameter u n with
  | nil => simp
  | cons l ls => simp [String.toList_intercalate]

/-- Names and values that are in order already are not moved. -/
lemma resourceLines_eq {names : List String}
    (hnames : ((parameters u).map (·.1)).eraseDups = names) (hsorted : names.Pairwise (· ≤ ·))
    (hvalues : ∀ n ∈ names, (parameterValues u n).Pairwise (· ≤ ·)) :
    resourceLines u =
      signedPath u :: names.map fun n => n ++ ":" ++ ",".intercalate (parameterValues u n) := by
  have hlines : (names.map fun n => n ++ ":" ++ joinedParameter u n) =
      names.map fun n => n ++ ":" ++ ",".intercalate (parameterValues u n) :=
    List.map_congr_left fun n hn => by rw [joinedParameter, mergeSort_eq_self (hvalues n hn)]
  rw [resourceLines, parameterNames, hnames, mergeSort_eq_self hsorted, hlines]

lemma newline_not_mem_signedPath (hpath : '\n' ∉ u.path.toList) : '\n' ∉ (signedPath u).toList := by
  rw [signedPath]
  split
  · decide
  · exact hpath

lemma lines_resourceLines (hpath : '\n' ∉ u.path.toList) :
    lines ("\n".intercalate (resourceLines u)) = (signedPath u).toList ::
      ((parameterNames u).map fun n => n ++ ":" ++ joinedParameter u n).flatMap lines := by
  rw [resourceLines, Text.lines_intercalate (List.cons_ne_nil _ _), List.flatMap_cons,
    Text.lines_eq_singleton (newline_not_mem_signedPath hpath), List.singleton_append]

/-! ## The parameters -/

lemma mem_parameterNames : name ∈ parameterNames u ↔ ∃ p ∈ parameters u, p.1 = name := by
  rw [parameterNames, List.mem_mergeSort, List.mem_eraseDups, List.mem_map]

lemma parameterValues_eq_nil (hn : name ∉ parameterNames u) : parameterValues u name = [] := by
  rw [parameterValues, List.map_eq_nil_iff, List.filter_eq_nil_iff]
  intro p hp hname
  exact hn (mem_parameterNames.mpr ⟨p, hp, beq_iff_eq.mp hname⟩)

lemma parameterValues_ne_nil (hn : name ∈ parameterNames u) : parameterValues u name ≠ [] := by
  obtain ⟨p, hp, hname⟩ := mem_parameterNames.mp hn
  exact List.ne_nil_of_mem
    (List.mem_map.mpr ⟨p, List.mem_filter.mpr ⟨hp, beq_iff_eq.mpr hname⟩, rfl⟩)

/-- Putting names into lower case does not bring in signs. -/
lemma HasPlainParameters.of_mem (hu : HasPlainParameters u) {p : String × String}
    (hp : p ∈ parameters u) :
    (':' ∉ p.1.toList ∧ '\n' ∉ p.1.toList) ∧ ',' ∉ p.2.toList ∧ '\n' ∉ p.2.toList := by
  obtain ⟨p', hp', rfl⟩ := List.mem_map.mp hp
  obtain ⟨⟨hcolon, hnewline⟩, hvalue⟩ := hu p' hp'
  exact ⟨⟨fun hmem => hcolon (Text.mem_of_mem_toLowercase (by decide) hmem),
    fun hmem => hnewline (Text.mem_of_mem_toLowercase (by decide) hmem)⟩, hvalue⟩

lemma HasPlainParameters.of_mem_names (hu : HasPlainParameters u) (hn : name ∈ parameterNames u) :
    ':' ∉ name.toList ∧ '\n' ∉ name.toList := by
  obtain ⟨p, hp, rfl⟩ := mem_parameterNames.mp hn
  exact (hu.of_mem hp).1

lemma HasPlainParameters.of_mem_values (hu : HasPlainParameters u) {v : String}
    (hv : v ∈ (parameterValues u name).mergeSort fun a b => a ≤ b) :
    ',' ∉ v.toList ∧ '\n' ∉ v.toList := by
  rw [List.mem_mergeSort, parameterValues] at hv
  obtain ⟨p, hp, rfl⟩ := List.mem_map.mp hv
  exact (hu.of_mem (List.mem_of_mem_filter hp)).2

lemma HasPlainParameters.newline_not_mem_line (hu : HasPlainParameters u)
    (hn : name ∈ parameterNames u) : '\n' ∉ (name ++ ":" ++ joinedParameter u name).toList := by
  rw [String.toList_append, String.toList_append, List.mem_append, List.mem_append, not_or, not_or]
  refine ⟨⟨(hu.of_mem_names hn).2, by decide⟩, fun hmem => ?_⟩
  rcases Text.mem_intercalate hmem with hcomma | ⟨v, hv, hc⟩
  · exact absurd hcomma (by decide)
  · exact (hu.of_mem_values hv).2 hc

lemma HasPlainParameters.flatMap_lines (hu : HasPlainParameters u) :
    ((parameterNames u).map fun n => n ++ ":" ++ joinedParameter u n).flatMap lines =
      (parameterNames u).map fun n => (n ++ ":" ++ joinedParameter u n).toList := by
  rw [Text.flatMap_lines, List.map_map]
  · rfl
  · intro s hs
    obtain ⟨n, hn, rfl⟩ := List.mem_map.mp hs
    exact hu.newline_not_mem_line hn

/-- How often a parameter is there, counted among the values of its name. -/
lemma count_parameters (u : Url) (p : String × String) :
    (parameters u).count p = (parameterValues u p.1).count p.2 := by
  rw [parameterValues]
  induction parameters u with
  | nil => rfl
  | cons p' ps ih =>
    rw [List.count_cons, List.filter_cons, ih]
    by_cases hname : p'.1 = p.1
    · rw [if_pos (beq_iff_eq.mpr hname), List.map_cons, List.count_cons]
      simp [Prod.ext_iff, hname]
    · have hne : ¬p' = p := fun heq => hname (congrArg Prod.fst heq)
      simp [hname, hne]

/-- The parameters are told up to their order by the values of each name, up to theirs. -/
lemma parameters_perm (hvalues : ∀ name, (parameterValues u name).Perm (parameterValues u' name)) :
    (parameters u).Perm (parameters u') := by
  rw [List.perm_iff_count]
  intro p
  rw [count_parameters, count_parameters, (hvalues p.1).count_eq]

/-- **The lines of the parameters tell the parameters up to their order.** -/
lemma parameters_of_lines (hu : HasPlainParameters u) (hu' : HasPlainParameters u')
    (hlines :
      ((parameterNames u).map fun n => n ++ ":" ++ joinedParameter u n).flatMap lines =
        ((parameterNames u').map fun n => n ++ ":" ++ joinedParameter u' n).flatMap lines) :
    (parameters u).Perm (parameters u') := by
  rw [hu.flatMap_lines, hu'.flatMap_lines] at hlines
  obtain ⟨hnames, hjoined⟩ := Text.keyed_inj (fun n hn => (hu.of_mem_names hn).1)
    (fun n hn => (hu'.of_mem_names hn).1) hlines
  refine parameters_perm fun n => ?_
  by_cases hn : n ∈ parameterNames u
  · have hn' : n ∈ parameterNames u' := hnames ▸ hn
    have hsome : ∀ {u : Url}, n ∈ parameterNames u →
        ((parameterValues u n).mergeSort fun a b => a ≤ b) ≠ [] := fun hn hnil =>
      parameterValues_ne_nil hn (hnil ▸ (List.mergeSort_perm _ _).symm).eq_nil
    have hsorted := Text.intercalate_comma_inj (hsome hn) (hsome hn')
      (fun v hv => (hu.of_mem_values hv).1) (fun v hv => (hu'.of_mem_values hv).1) (hjoined n hn)
    have hperm := (List.mergeSort_perm (parameterValues u n) fun a b => a ≤ b).symm
    rw [hsorted] at hperm
    exact hperm.trans (List.mergeSort_perm _ _)
  · have hn' : n ∉ parameterNames u' := hnames ▸ hn
    rw [parameterValues_eq_nil hn, parameterValues_eq_nil hn']

/-! ## The whole text -/

/-- The lines that are always there. -/
def frontLines (r : Request) : List String :=
  [r.method, headerText r.headers "content-encoding", headerText r.headers "content-language",
    contentLength r, headerText r.headers "content-md5", headerText r.headers "content-type", ""] ++
    laterHeaders.map (headerText r.headers)

lemma length_frontLines (r : Request) : (frontLines r).length = 12 := rfl

lemma stringToSign_eq (account : String) (r : Request) :
    stringToSign account r = "\n".intercalate
      (frontLines r ++ [serviceHeaders r.headers, resource account r.url]) := rfl

lemma IsTyped.newline_not_mem_frontLines (hr : IsTyped r) :
    ∀ s ∈ frontLines r, '\n' ∉ s.toList := by
  intro s hs
  simp only [frontLines, List.mem_append, List.mem_cons, List.mem_map, List.not_mem_nil,
    or_false] at hs
  rcases hs with (rfl | rfl | rfl | rfl | rfl | rfl | rfl) | ⟨n, -, rfl⟩
  · exact hr.method
  · exact newline_not_mem_headerText _ _
  · exact newline_not_mem_headerText _ _
  · exact newline_not_mem_contentLength _
  · exact newline_not_mem_headerText _ _
  · exact newline_not_mem_headerText _ _
  · decide
  · exact newline_not_mem_headerText _ _

lemma IsTyped.lines_stringToSign (hr : IsTyped r) (account : String) :
    lines (stringToSign account r) = (frontLines r).map String.toList ++
      (lines (serviceHeaders r.headers) ++ lines (resource account r.url)) := by
  rw [stringToSign_eq, Text.lines_intercalate (by simp [frontLines]), List.flatMap_append,
    Text.flatMap_lines hr.newline_not_mem_frontLines, List.flatMap_cons, List.flatMap_singleton]

/-- The lines fall apart into the same three parts. -/
lemma parts_of_stringToSign (hq : IsTyped q) (hr : IsTyped r)
    (htext : stringToSign account q = stringToSign account r) :
    frontLines q = frontLines r ∧
      lines (serviceHeaders q.headers) = lines (serviceHeaders r.headers) ∧
      resource account q.url = resource account r.url := by
  have hlines := congrArg lines htext
  rw [hq.lines_stringToSign, hr.lines_stringToSign] at hlines
  have hlength : ((frontLines q).map String.toList).length =
      ((frontLines r).map String.toList).length := by
    rw [List.length_map, List.length_map, length_frontLines, length_frontLines]
  obtain ⟨hfront, hback⟩ := List.append_inj hlines hlength
  -- the resource begins at the first line behind it that starts with a slash
  have hslash : ∀ u : Url, ∃ l rest, lines (resource account u) = ('/' :: l) :: rest := by
    intro u
    have hfirst : (resource account u).toList =
        '/' :: (account.toList ++ ("\n".intercalate (resourceLines u)).toList) := by
      rw [resource_eq, String.toList_append, String.toList_append]
      rfl
    exact Text.lines_of_toList_eq_cons (by decide) hfirst
  obtain ⟨l, rest, hresource⟩ := hslash q.url
  obtain ⟨l', rest', hresource'⟩ := hslash r.url
  rw [hresource, hresource'] at hback
  obtain ⟨hservices, hrest⟩ := Text.first_place_unique hq.head?_lines_serviceHeaders
    hr.head?_lines_serviceHeaders rfl rfl hback
  refine ⟨?_, hservices, Text.lines_injective ?_⟩
  · exact List.map_injective_iff.mpr (fun s t hst => String.toList_inj.mp hst) hfront
  · rw [hresource, hresource', hrest]

/-- The first lines tell the method, the length and the standard headers. -/
lemma fields_of_frontLines (hfront : frontLines q = frontLines r) :
    q.method = r.method ∧ contentLength q = contentLength r ∧
      ∀ name ∈ textHeaders, headerText q.headers name = headerText r.headers name := by
  simp only [frontLines, laterHeaders, List.map_cons, List.map_nil, List.cons_append,
    List.nil_append, List.cons.injEq, and_true, true_and] at hfront
  simp only [textHeaders, laterHeaders, List.cons_append, List.nil_append, List.forall_mem_cons]
  tauto

/-- A request without a path, with parameters of two names. -/
def pathless : Request :=
  { method := "GET"
    url := ⟨"queue", "", "", some (.domain "one.example.net"), none, "", some "a=1&b=2&a=3", none⟩
    headers := ⟨[("x-ms-meta", Utf8.encode " tools "), ("range", Utf8.encode "bytes=0-9")]⟩
    body := .empty
    generatedId := false }

/-- Another one with the same signed text. -/
def rooted : Request :=
  { method := "GET"
    url := ⟨"https", "", "", some (.domain "two.example.net"), some 8080, "/",
      some "A=1&a=3&B=2", none⟩
    headers := ⟨[("range", Utf8.encode "bytes=0-9"), ("content-length", Utf8.encode "0"),
      ("x-ms-meta", Utf8.encode "tools")]⟩
    body := .stream 0
    generatedId := true }

lemma stringToSign_pathless : stringToSign "myaccount" pathless =
    "GET\n\n\n\n\n\n\n\n\n\n\nbytes=0-9\nx-ms-meta:tools\n/myaccount/\na:1,3\nb:2" := by
  rw [stringToSign_eq, serviceHeaders, serviceNames_eq rfl (by decide +kernel), resource_eq,
    resourceLines_eq rfl (by decide +kernel) (by decide +kernel)]
  decide +kernel

lemma stringToSign_rooted : stringToSign "myaccount" rooted =
    "GET\n\n\n\n\n\n\n\n\n\n\nbytes=0-9\nx-ms-meta:tools\n/myaccount/\na:1,3\nb:2" := by
  rw [stringToSign_eq, serviceHeaders, serviceNames_eq rfl (by decide +kernel), resource_eq,
    resourceLines_eq rfl (by decide +kernel) (by decide +kernel)]
  decide +kernel

end QueueClient.Signature
