import DeclaredSchema.Http.Url
import DeclaredSchema.Json

/-!
# HTTP

Requests and replies, as far as a client of a JSON interface sees them. A server is what it answers
to a request, with the state that it keeps.
-/

namespace DeclaredSchema

inductive HttpMethod where
  | get
  | post
  | patch
  deriving DecidableEq, Repr

def HttpMethod.name : HttpMethod → String
  | get => "GET"
  | post => "POST"
  | patch => "PATCH"

structure HttpRequest where
  method : HttpMethod
  /-- Percent-encoded. -/
  path : String
  /-- Names and values, decoded. -/
  query : List (String × String)
  headers : List (String × String)
  body : Option Json
  deriving Repr

def HttpRequest.header? (r : HttpRequest) (name : String) : Option String := r.headers.lookup name

structure HttpReply where
  status : Nat
  body : String
  deriving DecidableEq, Repr

namespace HttpReply

def isSuccess (r : HttpReply) : Bool := 200 ≤ r.status && r.status < 300

/-- Replies of some statuses have no body, whatever is sent. -/
def content (r : HttpReply) : String :=
  if r.status < 200 || r.status = 204 || r.status = 304 then "" else r.body

end HttpReply

/-- A server with states `σ`. It may fail to answer. -/
structure HttpServer (σ : Type) where
  answer : HttpRequest → σ → Option HttpReply × σ

namespace HttpStatus

def reason? : Nat → Option String
  | 100 => some "Continue"
  | 101 => some "Switching Protocols"
  | 102 => some "Processing"
  | 103 => some "Early Hints"
  | 200 => some "OK"
  | 201 => some "Created"
  | 202 => some "Accepted"
  | 203 => some "Non Authoritative Information"
  | 204 => some "No Content"
  | 205 => some "Reset Content"
  | 206 => some "Partial Content"
  | 207 => some "Multi-Status"
  | 208 => some "Already Reported"
  | 226 => some "IM Used"
  | 300 => some "Multiple Choices"
  | 301 => some "Moved Permanently"
  | 302 => some "Found"
  | 303 => some "See Other"
  | 304 => some "Not Modified"
  | 305 => some "Use Proxy"
  | 307 => some "Temporary Redirect"
  | 308 => some "Permanent Redirect"
  | 400 => some "Bad Request"
  | 401 => some "Unauthorized"
  | 402 => some "Payment Required"
  | 403 => some "Forbidden"
  | 404 => some "Not Found"
  | 405 => some "Method Not Allowed"
  | 406 => some "Not Acceptable"
  | 407 => some "Proxy Authentication Required"
  | 408 => some "Request Timeout"
  | 409 => some "Conflict"
  | 410 => some "Gone"
  | 411 => some "Length Required"
  | 412 => some "Precondition Failed"
  | 413 => some "Payload Too Large"
  | 414 => some "URI Too Long"
  | 415 => some "Unsupported Media Type"
  | 416 => some "Range Not Satisfiable"
  | 417 => some "Expectation Failed"
  | 418 => some "I'm a teapot"
  | 421 => some "Misdirected Request"
  | 422 => some "Unprocessable Entity"
  | 423 => some "Locked"
  | 424 => some "Failed Dependency"
  | 425 => some "Too Early"
  | 426 => some "Upgrade Required"
  | 428 => some "Precondition Required"
  | 429 => some "Too Many Requests"
  | 431 => some "Request Header Fields Too Large"
  | 451 => some "Unavailable For Legal Reasons"
  | 500 => some "Internal Server Error"
  | 501 => some "Not Implemented"
  | 502 => some "Bad Gateway"
  | 503 => some "Service Unavailable"
  | 504 => some "Gateway Timeout"
  | 505 => some "HTTP Version Not Supported"
  | 506 => some "Variant Also Negotiates"
  | 507 => some "Insufficient Storage"
  | 508 => some "Loop Detected"
  | 510 => some "Not Extended"
  | 511 => some "Network Authentication Required"
  | _ => none

/-- A status with its standard reason. -/
def text (status : Nat) : String :=
  toString status ++ " " ++ (reason? status).getD "<unknown status code>"

end HttpStatus

end DeclaredSchema
