/-
# Reading URLs

URLs are read without a base.  Blank and control characters around the text are dropped, and
tabs and line ends anywhere; the scheme decides how the rest is read.  Paths come out with
their dot segments resolved.
-/
import QueueClient.Url.Basic
import QueueClient.Url.Domain
import QueueClient.Text.Blank

namespace QueueClient

/-- Why a text is no URL. -/
inductive Url.Fault where
  /-- There is no scheme. -/
  | noScheme
  /-- There has to be a host. -/
  | emptyHost
  /-- The host is no domain name. -/
  | domain
  /-- The host holds characters that no host may hold. -/
  | hostCharacter
  /-- A dotted number that is no address. -/
  | ipv4
  /-- A bracketed text that is no address. -/
  | ipv6
  /-- The port is no number below 65536. -/
  | port
deriving DecidableEq

/-- The wording of a fault. -/
def Url.Fault.message : Url.Fault → String
  | noScheme => "relative URL without a base"
  | emptyHost => "empty host"
  | domain => "invalid international domain name"
  | hostCharacter => "invalid domain character"
  | ipv4 => "invalid IPv4 address"
  | ipv6 => "invalid IPv6 address"
  | port => "invalid port number"

namespace Url

/-! ## Scheme -/

/-- Whether a character may stand in a scheme after its first letter. -/
def isSchemeChar (c : Char) : Bool := c.isAlphanum || c == '+' || c == '-' || c == '.'

/-- The scheme in lower case and what follows its colon. -/
def splitScheme? (cs : List Char) : Option (String × List Char) :=
  match cs with
  | c :: _ =>
    if c.isAlpha then
      match cs.span isSchemeChar with
      | (scheme, ':' :: rest) => some (String.ofList (scheme.map Char.toLower), rest)
      | _ => none
    else none
  | [] => none

/-! ## User, host and port -/

/-- Whether a character ends the part of a URL that holds user, host and port. -/
def endsAuthority (special : Bool) (c : Char) : Bool :=
  c == '/' || c == '?' || c == '#' || (special && c == '\\')

/-- A list cut at the last occurrence of a character. -/
def splitLast? (c : Char) (l : List Char) : Option (List Char × List Char) :=
  match l.reverse.span (· ≠ c) with
  | (back, _ :: front) => some (front.reverse, back.reverse)
  | (_, []) => none

/-- User name and password, encoded. -/
def readLogin (cs : List Char) : String × String :=
  let (user, rest) := cs.span (· ≠ ':')
  let enc := fun l => String.ofList (Percent.encode Percent.userinfo l)
  (enc user, enc (rest.drop 1))

/-- The host at the front of a text, up to a colon outside of brackets, and what follows it. -/
def spanHost (inBrackets : Bool) : List Char → List Char × List Char
  | [] => ([], [])
  | c :: rest =>
    if c == ':' && !inBrackets then ([], c :: rest)
    else
      let (host, rest') :=
        spanHost (if c == '[' then true else if c == ']' then false else inBrackets) rest
      (c :: host, rest')

/-- An address between brackets. -/
def readBracketed (cs : List Char) : Except Fault Host :=
  if cs.getLast? ≠ some ']' then .error .ipv6
  else match Host.ipv6? (cs.drop 1).dropLast with
    | some ns => .ok (.ipv6 ns)
    | none => .error .ipv6

/-- The host of a URL with a special scheme. -/
def readHost (cs : List Char) : Except Fault Host :=
  if cs.head? = some '[' then readBracketed cs
  else match Domain.toAscii? (Percent.decode (cs.flatMap String.utf8EncodeChar)) with
    | none => .error .domain
    | some name =>
      if name.isEmpty then .error .emptyHost
      else if Host.endsInNumber name.toList then
        match Host.ipv4? name.toList with
        | some a => .ok (.ipv4 a)
        | none => .error .ipv4
      else .ok (.domain name)

/-- Characters that no host of any scheme may hold. -/
def isForbiddenInHost (c : Char) : Bool :=
  ['\x00', '\t', '\n', '\r', ' ', '#', '/', ':', '<', '>', '?', '@', '[', '\\', ']', '^',
    '|'].contains c

/-- The host of a URL with any other scheme. -/
def readOpaqueHost (cs : List Char) : Except Fault Host :=
  if cs.head? = some '[' then readBracketed cs
  else if cs.any isForbiddenInHost then .error .hostCharacter
  else .ok (.domain (String.ofList (Percent.encode Percent.controls cs)))

/-- The port behind a host: absent if there are no digits or if it is the usual one.  A backslash
ends it in any URL. -/
def readPort (scheme : String) (cs : List Char) : Except Fault (Option Nat) :=
  match cs with
  | ':' :: rest =>
    let digits := rest.takeWhile Char.isDigit
    let after := rest.drop digits.length
    let n := Text.decimal digits
    if n > 65535 then .error .port
    else if !(after.isEmpty || after.head? = some '\\') then .error .port
    else if digits.isEmpty || defaultPort? scheme = some n then .ok none
    else .ok (some n)
  | _ => .ok none

/-! ## Paths -/

/-- `.` in one of its spellings. -/
def isDot (s : List Char) : Bool :=
  [".", "%2e"].contains (String.ofList (s.map Char.toLower))

/-- `..` in one of its spellings. -/
def isDoubleDot (s : List Char) : Bool :=
  ["..", ".%2e", "%2e.", "%2e%2e"].contains (String.ofList (s.map Char.toLower))

/-- A letter and a colon or bar. -/
def isDriveLetter : List Char → Bool
  | [c, d] => c.isAlpha && (d == ':' || d == '|')
  | _ => false

/-- Whether a segment, up to its first backslash, is a drive letter. -/
def namesDrive (segment : List Char) : Bool := isDriveLetter (segment.takeWhile (· ≠ '\\'))

/-- The segments, latest first, without the latest one; a drive letter stays. -/
def dropLatest (reversed : List (List Char)) : List (List Char) :=
  match reversed with
  | s :: rest => if namesDrive s then s :: rest else rest
  | [] => []

/-- Segments, latest first, with one more behind them.  The drive letter that starts the path of a
file gets its colon. -/
def addSegment (file : Bool) (reversed : List (List Char)) (s : List Char) : List (List Char) :=
  if file && reversed.isEmpty && isDriveLetter s then [s.take 1 ++ [':']] else s :: reversed

/-- Segments with the dot segments resolved; `reversed` holds those before, latest first.  A path
that ends in a dot segment ends in a slash. -/
def resolve (file : Bool) (reversed : List (List Char)) :
    List (List Char) → List (List Char)
  | [] => reversed.reverse
  | s :: rest =>
    let reversed :=
      if isDoubleDot s then dropLatest reversed
      else if isDot s then reversed
      else addSegment file reversed s
    if rest.isEmpty && (isDoubleDot s || isDot s) then ([] :: reversed).reverse
    else resolve file reversed rest

/-- The segments of the path that stands behind its first slash. -/
def pathSegments (special file : Bool) (cs : List Char) : List (List Char) :=
  let segments := cs.splitOnP fun c => c == '/' || (special && c == '\\')
  resolve file [] (segments.map (Percent.encode Percent.path))

/-- The path that stands behind its first slash. -/
def readPath (special : Bool) (cs : List Char) : String :=
  String.ofList ('/' :: ['/'].intercalate (pathSegments special false cs))

/-- The path of a file that stands behind its first slash, without empty segments in front, and
whether it starts with a drive letter. -/
def readFilePath (cs : List Char) : String × Bool :=
  let segments := pathSegments true true cs
  (String.ofList ('/' :: ['/'].intercalate (segments.dropWhile (·.isEmpty))),
    segments.head?.any isDriveLetter)

/-! ## The whole -/

/-- A text cut into what stands before the query, the query and the fragment. -/
def splitTail (cs : List Char) : List Char × Option (List Char) × Option (List Char) :=
  let (body, fragment) := cs.span (· ≠ '#')
  let (front, query) := body.span (· ≠ '?')
  (front, if query.isEmpty then none else some query.tail,
    if fragment.isEmpty then none else some fragment.tail)

/-- The URL whose part behind `//` (with the path, without query and fragment) is given. -/
def readAuthority (scheme : String) (cs : List Char) : Except Fault Url := do
  let special := isSpecialScheme scheme
  let (place, rest) := cs.span (! endsAuthority special ·)
  let (login, hostPort) ←
    match splitLast? '@' place with
    | none => pure (none, place)
    | some (login, hostPort) =>
      if login.isEmpty && hostPort.isEmpty then throw .emptyHost
      pure (some login, hostPort)
  let (username, password) := readLogin (login.getD [])
  let (hostText, portText) := spanHost false hostPort
  if special && hostText.isEmpty then throw .emptyHost
  let host ← if special then readHost hostText else readOpaqueHost hostText
  if hostText.isEmpty && !portText.isEmpty then throw .emptyHost
  let port ← readPort scheme portText
  if hostText.isEmpty && !(username.isEmpty && password.isEmpty) then throw .emptyHost
  -- A backslash behind the port of a scheme without structure begins the path.
  let rest := portText.dropWhile (· ≠ '\\') ++ rest
  let path :=
    if special then readPath true (rest.drop 1)
    else if rest.isEmpty then ""
    else readPath false (if rest.head? = some '/' then rest.drop 1 else rest)
  return { scheme, username, password, host := some host, port, path, query := none
           fragment := none }

/-- The URL of the file scheme with the given rest, without query and fragment.  A path on a drive
has no host. -/
def readFile (cs : List Char) : Except Fault Url := do
  let isSlash := fun c => c == '/' || c == '\\'
  let url := fun host rest =>
    let (path, hasDrive) := readFilePath rest
    { scheme := "file", username := "", password := ""
      host := some (if hasDrive then .domain "" else host), port := none, path
      query := none, fragment := none : Url }
  match cs with
  | a :: b :: rest =>
    if isSlash a && isSlash b then
      let (place, path) := rest.span (! isSlash ·)
      if isDriveLetter place then return url (.domain "") rest
      else if place.isEmpty then return url (.domain "") (path.drop 1)
      else
        let host ← readHost place
        return url (if host = .domain "localhost" then .domain "" else host) (path.drop 1)
    else return url (.domain "") (if isSlash a then b :: rest else cs)
  | _ => return url (.domain "") (if cs.any isSlash then cs.drop 1 else cs)

/-- The URL without query and fragment. -/
def readFront (scheme : String) (cs : List Char) : Except Fault Url :=
  if scheme = "file" then readFile cs
  else if isSpecialScheme scheme then
    readAuthority scheme (cs.dropWhile fun c => c == '/' || c == '\\')
  else
    match cs with
    | '/' :: '/' :: rest => readAuthority scheme rest
    | _ =>
      let path := match cs with
        | '/' :: rest => readPath false rest
        | _ => String.ofList (Percent.encode Percent.controls cs)
      .ok { scheme, username := "", password := "", host := none, port := none, path,
            query := none, fragment := none }

/-- The URL that a text is. -/
def parse (s : String) : Except Fault Url := do
  let trimmed := Text.stripWhile (fun c => c.toNat ≤ 0x20) s.toList
  let cs := trimmed.filter (! isTabOrNewline ·)
  match splitScheme? cs with
  | none => throw .noScheme
  | some (scheme, rest) =>
    let (front, query, fragment) := splitTail rest
    let url ← readFront scheme front
    return { url with
      query := query.map fun q => String.ofList (encodeQuery (isSpecialScheme scheme) q)
      fragment := fragment.map fun f => String.ofList (Percent.encode Percent.fragment f) }

end Url

end QueueClient
