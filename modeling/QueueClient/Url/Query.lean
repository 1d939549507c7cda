/-
# Queries

The query of a URL has two readings.  As text it is cut at `&` into pieces (`pieces`), some of
which may be empty or have no `=`.  As parameters (`pairs`) each piece that is not empty is a
name and a value around its first `=`, with `+` for a space and percent escapes decoded.
-/
import QueueClient.Url.Percent

namespace QueueClient.Query

/-- The pieces between the `&` of a text. -/
def pieces (text : List Char) : List (List Char) := text.splitOn '&'

/-- The text with the given pieces. -/
def join (ps : List (List Char)) : List Char := ['&'].intercalate ps

/-- A piece cut at its first `=`: what stands before and, if there is one, what stands behind. -/
def split (piece : List Char) : List Char × Option (List Char) :=
  match piece.span (· ≠ '=') with
  | (name, _ :: value) => (name, some value)
  | (name, []) => (name, none)

/-- A name or value with `+` and escapes decoded. -/
def decodePart (part : List Char) : String :=
  Utf8.decodeLossy (Percent.decode
    ((part.flatMap String.utf8EncodeChar).map fun b => if b = 0x2b then 0x20 else b))

/-- The parameter that a piece stands for; a value that is not there is empty. -/
def pair (piece : List Char) : String × String :=
  let (name, value) := split piece
  (decodePart name, decodePart (value.getD []))

/-- The parameters of a query, in order. -/
def pairs (text : List Char) : List (String × String) :=
  ((pieces text).filter (! ·.isEmpty)).map pair

end QueueClient.Query
