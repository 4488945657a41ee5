import CloudStub.Http.Headers
import CloudStub.Http.Uri

/-!
# Messages

Requests as they arrive and responses as they leave.  A response may carry two values that are
made when it is written: the current date and a fresh request id.

## Main Definitions

- `Http.Request`: a complete request
- `Http.FieldValue`: a field value of a response
- `Http.Response`: a complete response
- `Http.Stamp`: the values made when a response is written
- `Http.reason?`: the standard reason of a status
-/

namespace CloudStub.Http

/-- A complete request. -/
structure Request where
  /-- The method. -/
  method : Method
  /-- The target. -/
  uri : Uri
  /-- The header section. -/
  headers : Headers Bytes
  /-- The body. -/
  body : Bytes
  deriving Inhabited, Repr

/-- The first value of a field, as far as it is readable. -/
def Request.field? (r : Request) (name : String) : Option String :=
  (r.headers.first? name).bind readable?

/-- A field value of a response. -/
inductive FieldValue where
  /-- These bytes. -/
  | bytes (b : Bytes)
  /-- The date on which the response is written. -/
  | currentDate
  /-- A request id made for this response. -/
  | freshId
  deriving DecidableEq, Repr

/-- A field value from text. -/
def FieldValue.ofText (s : String) : FieldValue := .bytes (Utf8.encode s)

/-- The values made when a response is written. -/
structure Stamp where
  /-- The date. -/
  date : String
  /-- The request id. -/
  requestId : String

/-- The bytes of a field value. -/
def FieldValue.stamped (s : Stamp) : FieldValue → Bytes
  | .bytes b => b
  | .currentDate => Utf8.encode s.date
  | .freshId => Utf8.encode s.requestId

/-- A complete response. -/
structure Response where
  /-- The status. -/
  status : Nat
  /-- The header section. -/
  headers : Headers FieldValue
  /-- The body. -/
  body : Bytes
  deriving Inhabited, Repr

/-- The standard reason of a status. -/
def reason? : Nat → Option String
  | 100 => some "Continue"
  | 101 => some "Switching Protocols"
  | 102 => some "Processing"
  | 103 => some "Early Hints"
  | 200 => some "OK"
  | 201 => some "Created"
  | 202 => some "Accepted"
  | 203 => some "Non Authoritative Information"
  | 204 => some "No Content"
  | 205 => some "Reset Content"
  | 206 => some "Partial Content"
  | 207 => some "Multi-Status"
  | 208 => some "Already Reported"
  | 226 => some "IM Used"
  | 300 => some "Multiple Choices"
  | 301 => some "Moved Permanently"
  | 302 => some "Found"
  | 303 => some "See Other"
  | 304 => some "Not Modified"
  | 305 => some "Use Proxy"
  | 307 => some "Temporary Redirect"
  | 308 => some "Permanent Redirect"
  | 400 => some "Bad Request"
  | 401 => some "Unauthorized"
  | 402 => some "Payment Required"
  | 403 => some "Forbidden"
  | 404 => some "Not Found"
  | 405 => some "Method Not Allowed"
  | 406 => some "Not Acceptable"
  | 407 => some "Proxy Authentication Required"
  | 408 => some "Request Timeout"
  | 409 => some "Conflict"
  | 410 => some "Gone"
  | 411 => some "Length Required"
  | 412 => some "Precondition Failed"
  | 413 => some "Payload Too Large"
  | 414 => some "URI Too Long"
  | 415 => some "Unsupported Media Type"
  | 416 => some "Range Not Satisfiable"
  | 417 => some "Expectation Failed"
  | 418 => some "I'm a teapot"
  | 421 => some "Misdirected Request"
  | 422 => some "Unprocessable Entity"
  | 423 => some "Locked"
  | 424 => some "Failed Dependency"
  | 425 => some "Too Early"
  | 426 => some "Upgrade Required"
  | 428 => some "Precondition Required"
  | 429 => some "Too Many Requests"
  | 431 => some "Request Header Fields Too Large"
  | 451 => some "Unavailable For Legal Reasons"
  | 500 => some "Internal Server Error"
  | 501 => some "Not Implemented"
  | 502 => some "Bad Gateway"
  | 503 => some "Service Unavailable"
  | 504 => some "Gateway Timeout"
  | 505 => some "HTTP Version Not Supported"
  | 506 => some "Variant Also Negotiates"
  | 507 => some "Insufficient Storage"
  | 508 => some "Loop Detected"
  | 510 => some "Not Extended"
  | 511 => some "Network Authentication Required"
  | _ => none

/-- The status with its reason. -/
def statusText (status : Nat) : String :=
  toString status ++ " " ++ (reason? status).getD "<unknown status code>"

end CloudStub.Http
