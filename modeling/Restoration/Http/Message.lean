/-
Requests and responses, as far as they are looked at: a status with its
registered phrase, a content type and a body. Sending can fail before
there is a response; a response can be refused for its status or for a
body that does not read.

A response is the last one of its exchange: where a server names another
place, that place has been asked already, and what is represented is its
answer. It is also whole. Time is not counted: an answer that does not come
in the time that the asker gives it is one way to lose it
(`Loss.timedOut`).
-/
import Restoration.SystemError

namespace Restoration.Http

-- =============================================================== status

/-- The phrase registered for a status code. -/
def phrase? : Nat → Option String
  | 100 => some "Continue"
  | 101 => some "Switching Protocols"
  | 102 => some "Processing"
  | 103 => some "Early Hints"
  | 200 => some "OK"
  | 201 => some "Created"
  | 202 => some "Accepted"
  | 203 => some "Non Authoritative Information"
  | 204 => some "No Content"
  | 205 => some "Reset Content"
  | 206 => some "Partial Content"
  | 207 => some "Multi-Status"
  | 208 => some "Already Reported"
  | 226 => some "IM Used"
  | 300 => some "Multiple Choices"
  | 301 => some "Moved Permanently"
  | 302 => some "Found"
  | 303 => some "See Other"
  | 304 => some "Not Modified"
  | 305 => some "Use Proxy"
  | 307 => some "Temporary Redirect"
  | 308 => some "Permanent Redirect"
  | 400 => some "Bad Request"
  | 401 => some "Unauthorized"
  | 402 => some "Payment Required"
  | 403 => some "Forbidden"
  | 404 => some "Not Found"
  | 405 => some "Method Not Allowed"
  | 406 => some "Not Acceptable"
  | 407 => some "Proxy Authentication Required"
  | 408 => some "Request Timeout"
  | 409 => some "Conflict"
  | 410 => some "Gone"
  | 411 => some "Length Required"
  | 412 => some "Precondition Failed"
  | 413 => some "Payload Too Large"
  | 414 => some "URI Too Long"
  | 415 => some "Unsupported Media Type"
  | 416 => some "Range Not Satisfiable"
  | 417 => some "Expectation Failed"
  | 418 => some "I'm a teapot"
  | 421 => some "Misdirected Request"
  | 422 => some "Unprocessable Entity"
  | 423 => some "Locked"
  | 424 => some "Failed Dependency"
  | 425 => some "Too Early"
  | 426 => some "Upgrade Required"
  | 428 => some "Precondition Required"
  | 429 => some "Too Many Requests"
  | 431 => some "Request Header Fields Too Large"
  | 451 => some "Unavailable For Legal Reasons"
  | 500 => some "Internal Server Error"
  | 501 => some "Not Implemented"
  | 502 => some "Bad Gateway"
  | 503 => some "Service Unavailable"
  | 504 => some "Gateway Timeout"
  | 505 => some "HTTP Version Not Supported"
  | 506 => some "Variant Also Negotiates"
  | 507 => some "Insufficient Storage"
  | 508 => some "Loop Detected"
  | 510 => some "Not Extended"
  | 511 => some "Network Authentication Required"
  | _ => none

/-- A status code. -/
structure Status where
  code : Nat
  deriving DecidableEq, Repr

namespace Status

/-- Whether the request was carried out. -/
def isSuccess (s : Status) : Bool := 200 ≤ s.code && s.code < 300

/-- Whether the request was at fault. -/
def isClientError (s : Status) : Bool := 400 ≤ s.code && s.code < 500

/-- Whether the server was at fault. -/
def isServerError (s : Status) : Bool := 500 ≤ s.code && s.code < 600

/-- The phrase of a status; a code that is not registered has a stand-in. -/
def phrase (s : Status) : String :=
  (phrase? s.code).getD "<unknown status code>"

/-- The code and its phrase. -/
def text (s : Status) : String := s!"{s.code} {s.phrase}"

end Status

-- ============================================================= messages

/-- A request, without the server it is sent to. -/
structure Request where
  method : String
  path : String
  contentType : Option String
  body : Bytes
  deriving DecidableEq, Repr

/-- A response. `allow` lists the methods that a path does answer. -/
structure Response where
  status : Status
  contentType : Option String
  allow : Option String
  body : Bytes
  deriving DecidableEq, Repr

/-- The media type of JSON. -/
def jsonType : String := "application/json"

-- =============================================================== faults

/-- Why there is no response. -/
inductive Loss
  /-- No connection came about. -/
  | unconnected (reason : SystemError)
  /-- The connection was closed before the response. -/
  | dropped
  /-- The response has not come in time. -/
  | timedOut
  deriving DecidableEq, Repr

/-- Why an exchange with a server gave nothing. -/
inductive Fault
  /-- The URL cannot stand in a request. -/
  | unsendable (url : String)
  | unanswered (url : String) (loss : Loss)
  | refused (url : String) (status : Status)
  /-- The body does not read. What is wrong with it is never told. -/
  | unreadable
  deriving DecidableEq, Repr

namespace Fault

/-- The wording of a fault. -/
def message : Fault → String
  | .unsendable url => s!"builder error for url ({url})"
  | .unanswered url _ => s!"error sending request for url ({url})"
  | .refused url status =>
    let side := if status.isClientError then "client" else "server"
    s!"HTTP status {side} error ({status.text}) for url ({url})"
  | .unreadable => "error decoding response body"

/-- What lies behind a fault, outermost first. -/
def causes : Fault → List String
  | .unsendable _ => ["Parsed Url is not a valid Uri"]
  | .unanswered _ (.unconnected reason) =>
    ["client error (Connect)", "tcp connect error", reason.message]
  | .unanswered _ .dropped =>
    ["client error (SendRequest)", "connection closed before message completed"]
  | .unanswered _ .timedOut => ["operation timed out"]
  | .refused .. => []
  | .unreadable => []

end Fault

end Restoration.Http
