/-
# URLs

A URL in its parts, and its written form.  The path is kept as text; one that does not start
with a slash belongs to a URL without a host whose path has no structure.  Replacing the query
encodes what a query may not hold.
-/
import QueueClient.Url.Host

namespace QueueClient

/-- A URL in its normal form. -/
structure Url where
  /-- In lower case, without the colon. -/
  scheme : String
  /-- Percent-encoded; empty if there is none. -/
  username : String
  /-- Percent-encoded; empty if there is none. -/
  password : String
  /-- The host behind `//`; absent in URLs that have no such part. -/
  host : Option Host
  /-- The port, if it is not the usual one of the scheme. -/
  port : Option Nat
  /-- The path, percent-encoded. -/
  path : String
  /-- What stands behind the question mark. -/
  query : Option String
  /-- What stands behind the number sign. -/
  fragment : Option String
deriving DecidableEq, Inhabited

namespace Url

/-- The schemes whose URLs always have a host or file path, with their usual ports. -/
def specialSchemes : List (String × Option Nat) := [
  ("http", some 80), ("https", some 443), ("ws", some 80), ("wss", some 443), ("ftp", some 21),
  ("file", none)]

/-- Whether a scheme is one of these. -/
def isSpecialScheme (scheme : String) : Bool := (specialSchemes.lookup scheme).isSome

/-- The port that a scheme uses by itself. -/
def defaultPort? (scheme : String) : Option Nat := (specialSchemes.lookup scheme).join

/-- The part between `//` and the path. -/
def authority (u : Url) (h : Host) : String :=
  let login :=
    if u.username.isEmpty && u.password.isEmpty then ""
    else u.username ++ (if u.password.isEmpty then "" else ":" ++ u.password) ++ "@"
  login ++ h.text ++ (match u.port with | some p => ":" ++ toString p | none => "")

/-- Everything before the query. -/
def front (u : Url) : String :=
  u.scheme ++ ":" ++
    (match u.host with
      | some h => "//" ++ u.authority h
      | none => if "//".isPrefixOf u.path then "/." else "") ++ u.path

/-- The query with its question mark. -/
def queryPart (u : Url) : String := match u.query with | some q => "?" ++ q | none => ""

/-- The fragment with its number sign. -/
def fragmentPart (u : Url) : String := match u.fragment with | some f => "#" ++ f | none => ""

/-- The written form. -/
def text (u : Url) : String := u.front ++ u.queryPart ++ u.fragmentPart

/-- Whether a character is dropped wherever it stands. -/
def isTabOrNewline (c : Char) : Bool := c == '\t' || c == '\n' || c == '\r'

/-- A text as the query of a URL of the given kind. -/
def encodeQuery (special : Bool) (q : List Char) : List Char :=
  Percent.encode (if special then Percent.specialQuery else Percent.query)
    (q.filter (! isTabOrNewline ·))

/-- The URL with another query. -/
def setQuery (u : Url) (q : List Char) : Url :=
  { u with query := some (String.ofList (encodeQuery (isSpecialScheme u.scheme) q)) }

end Url

end QueueClient
