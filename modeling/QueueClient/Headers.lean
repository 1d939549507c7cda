/-
# Headers

The header fields of a message: names, compared in lower case, each with its values in order.
Setting a field replaces all values of its name; appending puts a value behind them.  The
order in which different names came in is not part of the meaning: `values` is the view that
counts.
-/
import QueueClient.Encoding.Utf8
import QueueClient.Text.Lowercase

namespace QueueClient

/-- The value of a header field, as bytes. -/
abbrev HeaderValue := List UInt8

/-- Header fields in the order in which they came in; names are in lower case. -/
structure Headers where
  /-- Names and values. -/
  fields : List (String × HeaderValue)
deriving DecidableEq, Inhabited

/-- What is wrong with a name or value that cannot be a header field. -/
inductive HeaderFault where
  /-- The name is empty, too long or holds other characters than names may. -/
  | name (given : String)
  /-- The value for a field holds control characters. -/
  | value (name : String)
deriving DecidableEq

namespace HeaderFault

/-- What is said of a text that is no header name. -/
def nameReason : String := "invalid HTTP header name"

/-- What is said of a text that is no header value. -/
def valueReason : String := "failed to parse header value"

/-- The wording of a header fault. -/
def text : HeaderFault → String
  | name given => "invalid header name '" ++ given ++ "': " ++ nameReason
  | value field => "invalid value for header '" ++ field ++ "': " ++ valueReason

end HeaderFault

namespace Headers

/-- The characters of tokens, such as methods. -/
def isTokenChar (c : Char) : Bool :=
  c.isAlphanum ||
    ['!', '#', '$', '%', '&', '\'', '*', '+', '-', '.', '^', '_', '\x60', '|', '~'].contains c

/-- The characters of header names: those of tokens, and the double quote. -/
def isNameChar (c : Char) : Bool := isTokenChar c || c == '"'

/-- The longest header name. -/
def maxNameLength : Nat := 65535

/-- A header name in lower case, if it is one. -/
def name? (s : String) : Option String :=
  let cs := s.toList
  if cs.isEmpty || cs.length > maxNameLength || !cs.all isNameChar then none
  else some (Text.asciiLowercase s)

/-- The bytes that a header value may hold: all but control characters, the tab excepted. -/
def isValueByte (b : UInt8) : Bool := (0x20 ≤ b && b != 0x7f) || b == 0x09

/-- A header value, if the text can be one. -/
def value? (s : String) : Option HeaderValue :=
  let bytes := Utf8.encode s
  if bytes.all isValueByte then some bytes else none

/-- The bytes that can be read as text: visible ASCII, the space and the tab. -/
def isTextByte (b : UInt8) : Bool := (0x20 ≤ b && b < 0x7f) || b == 0x09

/-- A value as text, if every byte of it can be read. -/
def valueText? (v : HeaderValue) : Option String :=
  if v.all isTextByte then some (String.ofList (v.map fun b => Char.ofNat b.toNat)) else none

/-- No fields. -/
def empty : Headers := ⟨[]⟩

/-- The values of a name, in order. -/
def values (h : Headers) (name : String) : List HeaderValue :=
  (h.fields.filter (·.1 == name)).map (·.2)

/-- Whether there is a field of this name. -/
def contains (h : Headers) (name : String) : Bool := h.fields.any (·.1 == name)

/-- The first value of a name. -/
def get? (h : Headers) (name : String) : Option HeaderValue := (h.values name).head?

/-- The first value of a name as text; a value that cannot be read counts as absent. -/
def text? (h : Headers) (name : String) : Option String := (h.get? name).bind valueText?

/-- The field with one value, in place of all values of its name. -/
def insert (h : Headers) (name : String) (v : HeaderValue) : Headers :=
  ⟨h.fields.filter (·.1 != name) ++ [(name, v)]⟩

/-- One more value behind those of its name. -/
def append (h : Headers) (name : String) (v : HeaderValue) : Headers :=
  ⟨h.fields ++ [(name, v)]⟩

/-- Sets a field given as text, or says what is wrong with it. -/
def set (h : Headers) (name value : String) : Except HeaderFault Headers :=
  match name? name with
  | none => .error (.name name)
  | some n =>
    match value? value with
    | none => .error (.value n)
    | some v => .ok (h.insert n v)

/-- The names, each once, in order. -/
def names (h : Headers) : List String := (h.fields.map (·.1)).eraseDups

/-- The fields sorted by name; the values of one name keep their order. -/
def sorted (h : Headers) : List (String × HeaderValue) :=
  h.fields.mergeSort fun a b => !(b.1 < a.1)

theorem values_insert_self (h : Headers) (n : String) (v : HeaderValue) :
    (h.insert n v).values n = [v] := by
  simp [values, insert, List.filter_filter]

theorem values_insert_of_ne (h : Headers) {n m : String} (v : HeaderValue) (hne : m ≠ n) :
    (h.insert n v).values m = h.values m := by
  have hnm : (n == m) = false := by simpa using Ne.symm hne
  have hfilter : h.fields.filter (fun x => x.1 == m && x.1 != n) =
      h.fields.filter (·.1 == m) :=
    List.filter_congr fun x _ => by by_cases hx : x.1 = m <;> simp [hx, hne]
  simp [values, insert, List.filter_filter, hfilter, hnm]

theorem values_append_self (h : Headers) (n : String) (v : HeaderValue) :
    (h.append n v).values n = h.values n ++ [v] := by
  simp [values, append]

end Headers

end QueueClient
