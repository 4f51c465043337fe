import CallRegistry.Http.Coding
import CallRegistry.Http.Redirect

/-!
# Responses and their status

A response with a status from 200 to 299 is a success.  Any other is a failure
that names the status, its standard phrase, and where a redirection leads; the
redirection itself is never followed.  A redirection to something that is no
address is a failure of its own.  So is a header beyond ASCII, and a body that
cannot be decoded, whatever the status is.
-/

namespace CallRegistry.Http

structure Response where
  status : Nat
  headers : List (String × String)
  body : List UInt8
  deriving DecidableEq, Repr

def phrases : List (Nat × String) :=
  [(100, "Continue"), (101, "Switching Protocols"), (102, "Processing"),
    (103, "Early Hints"), (200, "OK"), (201, "Created"), (202, "Accepted"),
    (203, "Non-Authoritative Information"), (204, "No Content"),
    (205, "Reset Content"), (206, "Partial Content"), (207, "Multi-Status"),
    (208, "Already Reported"), (226, "IM Used"), (300, "Multiple Choices"),
    (301, "Moved Permanently"), (302, "Found"), (303, "See Other"),
    (304, "Not Modified"), (305, "Use Proxy"), (307, "Temporary Redirect"),
    (308, "Permanent Redirect"), (400, "Bad Request"), (401, "Unauthorized"),
    (402, "Payment Required"), (403, "Forbidden"), (404, "Not Found"),
    (405, "Method Not Allowed"), (406, "Not Acceptable"),
    (407, "Proxy Authentication Required"), (408, "Request Timeout"),
    (409, "Conflict"), (410, "Gone"), (411, "Length Required"),
    (412, "Precondition Failed"), (413, "Request Entity Too Large"),
    (414, "Request-URI Too Long"), (415, "Unsupported Media Type"),
    (416, "Requested Range Not Satisfiable"), (417, "Expectation Failed"),
    (418, "I'm a teapot"), (421, "Misdirected Request"),
    (422, "Unprocessable Entity"), (423, "Locked"), (424, "Failed Dependency"),
    (425, "Too Early"), (426, "Upgrade Required"),
    (428, "Precondition Required"), (429, "Too Many Requests"),
    (431, "Request Header Fields Too Large"),
    (451, "Unavailable For Legal Reasons"), (500, "Internal Server Error"),
    (501, "Not Implemented"), (502, "Bad Gateway"),
    (503, "Service Unavailable"), (504, "Gateway Timeout"),
    (505, "HTTP Version Not Supported"), (506, "Variant Also Negotiates"),
    (507, "Insufficient Storage"), (508, "Loop Detected"),
    (510, "Not Extended"), (511, "Network Authentication Required")]

/-- The standard phrase of a status code, empty for an unknown one. -/
def phrase (status : Nat) : String :=
  (phrases.lookup status).getD ""

/-- What the hundreds of a status code say. -/
def statusClass (status : Nat) : String :=
  match status / 100 with
  | 1 => "Informational response"
  | 3 => "Redirect response"
  | 4 => "Client error"
  | 5 => "Server error"
  | _ => "Invalid status code"

inductive ResponseFault where
  /-- A status outside 200 to 299, and where it redirects to. -/
  | status (code : Nat) (url : String) (location : Option String)
  /-- A redirection to something that is no address. -/
  | location (fault : UrlFault)
  /-- A redirection to an address that comes to nothing in its place. -/
  | redirect (fault : RedirectFault)
  /-- A header with so many characters beyond ASCII in a row, from a position
  on. -/
  | header (first : Char) (position count : Nat)
  | body (fault : Compression.Fault)
  deriving DecidableEq, Repr

def ResponseFault.message : ResponseFault → String
  | .status code url goal =>
    let redirect :=
      match goal with
      | some place => "Redirect location: '" ++ place ++ "'\n"
      | none => ""
    statusClass code ++ " '" ++ toString code ++ " " ++ phrase code ++
      "' for url '" ++ url ++ "'\n" ++ redirect ++
      "For more information check: " ++
      "https://developer.mozilla.org/en-US/docs/Web/HTTP/Status/" ++
      toString code
  | .location fault => "Invalid URL in location header: " ++ fault.message ++ "."
  | .redirect fault => fault.message
  | .header first position count =>
    let place :=
      if count = 1 then
        "character '" ++ String.ofList (Text.codeEscape first) ++
          "' in position " ++ toString position
      else
        "characters in position " ++ toString position ++ "-" ++
          toString (position + count - 1)
    "'ascii' codec can't encode " ++ place ++ ": ordinal not in range(128)"
  | .body fault => "Error -3 while decompressing data: " ++ fault.message

namespace Response

def isSuccess (r : Response) : Bool :=
  200 ≤ r.status && r.status ≤ 299

/-- The status codes that lead to another address. -/
def redirections : List Nat := [301, 302, 303, 307, 308]

/-- The value of a header, whatever the case of its name; several values are
put together. -/
def header? (r : Response) (name : String) : Option String :=
  match r.headers.filter fun h => Text.lower h.1 == name with
  | [] => none
  | found => some (", ".intercalate (found.map (·.2)))

def asciiFault? (s : String) : Option ResponseFault :=
  let isPlain (c : Char) : Bool := c.toNat < 0x80
  match s.toList.dropWhile isPlain with
  | [] => none
  | c :: rest =>
    some (.header c (s.toList.takeWhile isPlain).length
      ((c :: rest).takeWhile (!isPlain ·)).length)

def headerFault? (r : Response) : Option ResponseFault :=
  (r.headers.flatMap fun h => [h.1, h.2]).findSome? asciiFault?

def location? (r : Response) : Option String :=
  if redirections.contains r.status then r.header? "location" else none

/-- What is wrong with where a response to a request for an address leads. -/
def locationFault? (r : Response) (url : Url) : Option ResponseFault :=
  match r.location?.map Url.parse with
  | none => none
  | some (.error fault) => some (.location fault)
  | some (.ok goal) => (url.redirectFault? goal).map .redirect

def decodedBody (r : Response) : Except ResponseFault (List UInt8) :=
  let codings := Coding.ofHeader ((r.header? "content-encoding").getD "")
  (Coding.decodeAll codings r.body).mapError .body

/-- The body of a successful response to a request for an address. -/
def content (r : Response) (url : Url) :
    Except ResponseFault (List UInt8) := do
  if let some fault := r.headerFault? then throw fault
  let body ← r.decodedBody
  if let some fault := r.locationFault? url then throw fault
  if r.isSuccess then return body
  else throw (.status r.status url.text r.location?)

end Response

end CallRegistry.Http
