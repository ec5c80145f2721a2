import CitedReport.Json.Parser
import CitedReport.Url.Basic

/-!
# Exchanges over HTTP

What is sent, what comes back, and what can go wrong on the way. Before a request is sent its
address is brought into its only form; one that is no address of the web is refused.
-/

namespace CitedReport

/-- What a request does. -/
inductive HttpMethod where
  /-- Fetches something. -/
  | get
  /-- Sends something. -/
  | post
deriving DecidableEq, Repr

/-- A request. -/
structure HttpRequest where
  /-- What it does. -/
  method : HttpMethod := .get
  /-- Where it goes. -/
  url : String
  /-- What the sender calls itself. -/
  userAgent : Option String := none
  /-- The key that it carries. -/
  bearer : Option String := none
  /-- The value that it sends. -/
  body : Option Json.Sorted := none
  /-- How long an answer may take. -/
  timeoutSecs : Nat

/-- A reply. -/
structure HttpReply where
  /-- Its status. -/
  status : Nat
  /-- What its body is said to be. -/
  contentType : String := ""
  /-- Its body, if all of it came. -/
  body : Option String

/-- Why there is no reply. -/
inductive HttpFailure where
  /-- The request could not be made. -/
  | invalid (url : Option String)
  /-- The other side could not be reached or hung up. -/
  | unreachable (url : String)
  /-- It took too long. -/
  | timedOut (url : String)
deriving DecidableEq, Repr, Inhabited

/-- What the user is told. -/
def HttpFailure.message : HttpFailure → String
  | .invalid none => "builder error"
  | .invalid (some url) => "builder error for url (" ++ url ++ ")"
  | .unreachable url => "error sending request for url (" ++ url ++ ")"
  | .timedOut url => "error sending request for url (" ++ url ++ ")"

namespace HttpRequest

/-- Whether a key can be sent. -/
def canCarry (key : String) : Bool :=
  key.toList.all fun c => c == '\t' || (32 ≤ c.toNat && c.toNat ≠ 127)

/-- Whether a request can be made for an address: its host has no quotes or braces, and it is not
too long. -/
def canAsk (u : Url) : Bool :=
  u.host.all (fun host => host.all fun c => !"\"\x60\x7b\x7d".toList.contains c) &&
    u.text.utf8ByteSize ≤ 65534

/-- The request with its address in its only form, without a user's name. -/
def prepare (r : HttpRequest) : Except HttpFailure HttpRequest :=
  match Url.parse r.url with
  | .error _ => .error (.invalid none)
  | .ok u =>
    if u.host.all (· = []) then .error (.invalid (some u.text))
    else if !(r.bearer.all canCarry) then .error (.invalid none)
    else
      let u := u.withoutUser
      if (u.scheme ≠ "http" ∧ u.scheme ≠ "https") ∨ !canAsk u then .error (.invalid (some u.text))
      else .ok { r with url := u.text }

end HttpRequest

namespace HttpReply

/-- Whether the reply is what was asked for. -/
def isSuccess (r : HttpReply) : Bool := 200 ≤ r.status && r.status < 300

/-- What the user is told about a body that did not come or makes no sense. -/
def undecodable : String := "error decoding response body"

/-- The words that go with a status. -/
def reasons : List (Nat × String) :=
  [(100, "Continue"), (101, "Switching Protocols"), (102, "Processing"), (200, "OK"),
    (201, "Created"), (202, "Accepted"), (203, "Non Authoritative Information"),
    (204, "No Content"), (205, "Reset Content"), (206, "Partial Content"), (207, "Multi-Status"),
    (208, "Already Reported"), (226, "IM Used"), (300, "Multiple Choices"),
    (301, "Moved Permanently"), (302, "Found"), (303, "See Other"), (304, "Not Modified"),
    (305, "Use Proxy"), (307, "Temporary Redirect"), (308, "Permanent Redirect"),
    (400, "Bad Request"), (401, "Unauthorized"), (402, "Payment Required"), (403, "Forbidden"),
    (404, "Not Found"), (405, "Method Not Allowed"), (406, "Not Acceptable"),
    (407, "Proxy Authentication Required"), (408, "Request Timeout"), (409, "Conflict"),
    (410, "Gone"), (411, "Length Required"), (412, "Precondition Failed"),
    (413, "Payload Too Large"), (414, "URI Too Long"), (415, "Unsupported Media Type"),
    (416, "Range Not Satisfiable"), (417, "Expectation Failed"), (418, "I'm a teapot"),
    (421, "Misdirected Request"), (422, "Unprocessable Entity"), (423, "Locked"),
    (424, "Failed Dependency"), (425, "Too Early"), (426, "Upgrade Required"),
    (428, "Precondition Required"), (429, "Too Many Requests"),
    (431, "Request Header Fields Too Large"), (451, "Unavailable For Legal Reasons"),
    (500, "Internal Server Error"), (501, "Not Implemented"), (502, "Bad Gateway"),
    (503, "Service Unavailable"), (504, "Gateway Timeout"), (505, "HTTP Version Not Supported"),
    (506, "Variant Also Negotiates"), (507, "Insufficient Storage"), (508, "Loop Detected"),
    (510, "Not Extended"), (511, "Network Authentication Required")]

/-- The status with its words. -/
def statusText (r : HttpReply) : String :=
  toString r.status ++ " " ++ (reasons.lookup r.status).getD "<unknown status code>"

/-- Reads the body with a reader of JSON values. -/
def read {α : Type} (r : HttpReply) (ofJson? : Json → Option α) : Option α :=
  (r.body.bind Json.parse?).bind ofJson?

end HttpReply

end CitedReport
