/-
# Status codes

The three-digit codes of responses, their classes and their registered reason phrases.
-/

namespace QueueClient

/-- A status code, from 100 to 999. -/
structure Status where
  /-- The number. -/
  code : Nat
  /-- It has three digits. -/
  three_digits : 100 ≤ code ∧ code ≤ 999
deriving DecidableEq

namespace Status

/-- The status with a number, if there is one. -/
def ofNat? (n : Nat) : Option Status :=
  if h : 100 ≤ n ∧ n ≤ 999 then some ⟨n, h⟩ else none

/-- A request that was served. -/
def ok : Status := ⟨200, by decide⟩

/-- 200 to 299. -/
def isSuccess (s : Status) : Bool := 200 ≤ s.code && s.code < 300

/-- 400 to 499. -/
def isClientError (s : Status) : Bool := 400 ≤ s.code && s.code < 500

/-- 500 to 599. -/
def isServerError (s : Status) : Bool := 500 ≤ s.code && s.code < 600

/-- A condition that another try may not meet again: request timeout, too many requests, and the
server errors that say "not now". -/
def isTransient (s : Status) : Bool := [408, 429, 500, 502, 503, 504].contains s.code

/-- A client error that probes for existence and conditional calls bring about as a matter of
course. -/
def isRoutine (s : Status) : Bool := [404, 409, 412, 416].contains s.code

/-- A status worth an error entry in the log. -/
def isFailure (s : Status) : Bool := s.isServerError || (s.isClientError && !s.isRoutine)

/-- The registered phrases. -/
def reasonTable : List (Nat × String) := [
  (100, "Continue"), (101, "Switching Protocols"), (102, "Processing"), (200, "OK"),
  (201, "Created"), (202, "Accepted"), (203, "Non Authoritative Information"),
  (204, "No Content"), (205, "Reset Content"), (206, "Partial Content"), (207, "Multi-Status"),
  (208, "Already Reported"), (226, "IM Used"), (300, "Multiple Choices"),
  (301, "Moved Permanently"), (302, "Found"), (303, "See Other"), (304, "Not Modified"),
  (305, "Use Proxy"), (307, "Temporary Redirect"), (308, "Permanent Redirect"),
  (400, "Bad Request"), (401, "Unauthorized"), (402, "Payment Required"), (403, "Forbidden"),
  (404, "Not Found"), (405, "Method Not Allowed"), (406, "Not Acceptable"),
  (407, "Proxy Authentication Required"), (408, "Request Timeout"), (409, "Conflict"),
  (410, "Gone"), (411, "Length Required"), (412, "Precondition Failed"),
  (413, "Payload Too Large"), (414, "URI Too Long"), (415, "Unsupported Media Type"),
  (416, "Range Not Satisfiable"), (417, "Expectation Failed"), (418, "I'm a teapot"),
  (421, "Misdirected Request"), (422, "Unprocessable Entity"), (423, "Locked"),
  (424, "Failed Dependency"), (426, "Upgrade Required"), (428, "Precondition Required"),
  (429, "Too Many Requests"), (431, "Request Header Fields Too Large"),
  (451, "Unavailable For Legal Reasons"), (500, "Internal Server Error"),
  (501, "Not Implemented"), (502, "Bad Gateway"), (503, "Service Unavailable"),
  (504, "Gateway Timeout"), (505, "HTTP Version Not Supported"),
  (506, "Variant Also Negotiates"), (507, "Insufficient Storage"), (508, "Loop Detected"),
  (510, "Not Extended"), (511, "Network Authentication Required")]

/-- The phrase registered for a status. -/
def reason? (s : Status) : Option String := reasonTable.lookup s.code

end Status

end QueueClient
