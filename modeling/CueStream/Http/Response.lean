-- Answers of a server, and what is made of their status and their headers.
import CueStream.Text.Utf8

namespace CueStream.Http

/-! ## Statuses -/

def isSuccess (status : Nat) : Bool :=
  200 ≤ status && status ≤ 299

/-- The server could not answer now but may be able to later. -/
def isTransient (status : Nat) : Bool :=
  status = 429 || (500 ≤ status && status ≤ 599)

/-- The phrases that belong to the statuses. -/
def reasonPhrases : List (Nat × String) :=
  [ (100, "Continue"), (101, "Switching Protocols"), (102, "Processing"), (103, "Early Hints"),
    (200, "OK"), (201, "Created"), (202, "Accepted"), (203, "Non Authoritative Information"),
    (204, "No Content"), (205, "Reset Content"), (206, "Partial Content"), (207, "Multi-Status"),
    (208, "Already Reported"), (226, "IM Used"),
    (300, "Multiple Choices"), (301, "Moved Permanently"), (302, "Found"), (303, "See Other"),
    (304, "Not Modified"), (305, "Use Proxy"), (307, "Temporary Redirect"),
    (308, "Permanent Redirect"),
    (400, "Bad Request"), (401, "Unauthorized"), (402, "Payment Required"), (403, "Forbidden"),
    (404, "Not Found"), (405, "Method Not Allowed"), (406, "Not Acceptable"),
    (407, "Proxy Authentication Required"), (408, "Request Timeout"), (409, "Conflict"),
    (410, "Gone"), (411, "Length Required"), (412, "Precondition Failed"),
    (413, "Payload Too Large"), (414, "URI Too Long"), (415, "Unsupported Media Type"),
    (416, "Range Not Satisfiable"), (417, "Expectation Failed"), (418, "I'm a teapot"),
    (421, "Misdirected Request"), (422, "Unprocessable Entity"), (423, "Locked"),
    (424, "Failed Dependency"), (425, "Too Early"), (426, "Upgrade Required"),
    (428, "Precondition Required"), (429, "Too Many Requests"),
    (431, "Request Header Fields Too Large"), (451, "Unavailable For Legal Reasons"),
    (500, "Internal Server Error"), (501, "Not Implemented"), (502, "Bad Gateway"),
    (503, "Service Unavailable"), (504, "Gateway Timeout"), (505, "HTTP Version Not Supported"),
    (506, "Variant Also Negotiates"), (507, "Insufficient Storage"), (508, "Loop Detected"),
    (510, "Not Extended"), (511, "Network Authentication Required") ]

/-- A status with its phrase, as it is shown in messages. -/
def statusText (status : Nat) : Text :=
  Text.ofNat status ++ ' ' ::
    ((reasonPhrases.lookup status).getD "<unknown status code>").toList

/-! ## Headers -/

/-- A header. Its value need not be text. -/
structure Header where
  name : Text
  value : List UInt8
  deriving DecidableEq, Repr

/-- The value of the first header with this name. Case does not matter in names. -/
def header? (name : String) (headers : List Header) : Option (List UInt8) :=
  (headers.find? fun h => h.name.map Char.toLower = name.toList).map (·.value)

/-- The text of a header value, if it holds only visible ASCII characters, spaces and tabs. -/
def headerText? (value : List UInt8) : Option Text :=
  if value.all fun b => (0x20 ≤ b && b < 0x7F) || b = 0x09 then
    some (value.map fun b => Char.ofNat b.toNat)
  else none

/-- A number of at most 64 bits in decimal digits. A plus may stand in front. -/
def count? (t : Text) : Option Nat :=
  let digits := match t with
    | '+' :: rest => rest
    | t => t
  if digits.isEmpty || !digits.all Char.isDigit then none
  else (some (Nat.ofDigitChars 10 digits 0)).filter (· < UInt64.size)

/-! ## Answers -/

/-- An answer of a server. -/
structure Response where
  status : Nat
  headers : List Header := []
  /-- The body, in the pieces in which it came. -/
  body : List (List UInt8) := []
  /-- The connection broke before the body was complete. -/
  broken : Bool := false
  deriving DecidableEq, Repr

namespace Response

/-- The whole body, if all of it came. -/
def bytes? (r : Response) : Option (List UInt8) :=
  if r.broken then none else some r.body.flatten

/-- How many seconds the server asks to wait. -/
def retryAfter? (r : Response) : Option Nat :=
  ((header? "retry-after" r.headers).bind headerText?).bind count?

end Response

/-- How an attempt to send a request ends. -/
inductive Outcome where
  | response (r : Response)
  /-- There is no answer. The text says why. -/
  | failure (cause : Text)
  deriving DecidableEq, Repr

end CueStream.Http
