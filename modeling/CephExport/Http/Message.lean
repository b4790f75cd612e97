import CephExport.Error
import CephExport.Json.Codec
import CephExport.Json.Parser
import CephExport.Json.Transfer

/-!
HTTP requests and responses as the operator exchanges them with the API server.
-/

set_option autoImplicit false
set_option relaxedAutoImplicit false

namespace CephExport

inductive HttpMethod
  | get
  | post
  | put
  | delete
  | patch
  deriving DecidableEq

def HttpMethod.name : HttpMethod → String
  | get => "GET"
  | post => "POST"
  | put => "PUT"
  | delete => "DELETE"
  | patch => "PATCH"

structure HttpTarget where
  path : String
  query : List (String × String)
  deriving DecidableEq

namespace HttpTarget

/-- The characters that a path may hold as they are; beyond ASCII all are let through. -/
def isPathChar (c : Char) : Bool :=
  let n := c.toNat
  n == 0x21 || n == 0x22 || (0x24 ≤ n && n ≤ 0x3B) || n == 0x3D || (0x40 ≤ n && n ≤ 0x5F) ||
    (0x61 ≤ n && n != 0x7F)

/-- The characters that a query may hold as they are. -/
def isQueryChar (c : Char) : Bool :=
  let n := c.toNat
  n == 0x21 || (0x24 ≤ n && n ≤ 0x3B) || n == 0x3D || (0x3F ≤ n && n != 0x7F)

/-- The pairs of a query: they stand between ampersands, with an equals sign between key and
value. -/
def pairs (query : String) : List (String × String) :=
  ((query.splitOn "&").filter (· != "")).map fun pair =>
    match pair.splitOn "=" with
    | key :: rest => (key, String.intercalate "=" rest)
    | [] => (pair, "")

def maxBytes : Nat := 65534

/-- Read an address: the path ends at a question mark and all ends at a number sign. None where a
character may not stand as it is, or where the address is too long. -/
def ofText? (text : String) : Option HttpTarget :=
  let chars := text.toList.takeWhile (· != '#')
  let path := chars.takeWhile (· != '?')
  let query := (chars.dropWhile (· != '?')).drop 1
  if text.utf8ByteSize ≤ maxBytes && path.all isPathChar && query.all isQueryChar then
    some ⟨String.ofList path, pairs (String.ofList query)⟩
  else none

end HttpTarget

inductive HttpBody
  | json (value : Json)
  | text (value : String)

namespace HttpBody

def toText : HttpBody → String
  | json value => value.print
  | text value => value

def written? : HttpBody → Option Json
  | json value => some value.transferred
  | text value => Json.written? value

def settled? : HttpBody → Option Json
  | json value => some value.transferred
  | text value => Json.parse? value

end HttpBody

structure HttpRequest where
  method : HttpMethod
  target : HttpTarget
  contentType : Option String := none
  body : Option Json := none

namespace HttpRequest

def listing (request : HttpRequest) : Json :=
  .ofMembers [("method", .string request.method.name), ("path", .string request.target.path),
    ("query", .ofMembers (request.target.query.map fun (key, value) => (key, .string value))),
    ("content_type", (request.contentType.map .string).getD .null),
    ("body", request.body.getD .null)]

end HttpRequest

structure HttpResponse where
  code : Nat
  body : HttpBody

namespace HttpResponse

def reasonPhrase : Nat → String
  | 100 => "Continue" | 101 => "Switching Protocols" | 102 => "Processing"
  | 200 => "OK" | 201 => "Created" | 202 => "Accepted" | 203 => "Non Authoritative Information"
  | 204 => "No Content" | 205 => "Reset Content" | 206 => "Partial Content" | 207 => "Multi-Status"
  | 208 => "Already Reported" | 226 => "IM Used"
  | 300 => "Multiple Choices" | 301 => "Moved Permanently" | 302 => "Found" | 303 => "See Other"
  | 304 => "Not Modified" | 305 => "Use Proxy" | 307 => "Temporary Redirect"
  | 308 => "Permanent Redirect"
  | 400 => "Bad Request" | 401 => "Unauthorized" | 402 => "Payment Required" | 403 => "Forbidden"
  | 404 => "Not Found" | 405 => "Method Not Allowed" | 406 => "Not Acceptable"
  | 407 => "Proxy Authentication Required" | 408 => "Request Timeout" | 409 => "Conflict"
  | 410 => "Gone" | 411 => "Length Required" | 412 => "Precondition Failed"
  | 413 => "Payload Too Large" | 414 => "URI Too Long" | 415 => "Unsupported Media Type"
  | 416 => "Range Not Satisfiable" | 417 => "Expectation Failed" | 418 => "I'm a teapot"
  | 421 => "Misdirected Request" | 422 => "Unprocessable Entity" | 423 => "Locked"
  | 424 => "Failed Dependency" | 425 => "Too Early" | 426 => "Upgrade Required"
  | 428 => "Precondition Required" | 429 => "Too Many Requests"
  | 431 => "Request Header Fields Too Large" | 451 => "Unavailable For Legal Reasons"
  | 500 => "Internal Server Error" | 501 => "Not Implemented" | 502 => "Bad Gateway"
  | 503 => "Service Unavailable" | 504 => "Gateway Timeout" | 505 => "HTTP Version Not Supported"
  | 506 => "Variant Also Negotiates" | 507 => "Insufficient Storage" | 508 => "Loop Detected"
  | 510 => "Not Extended" | 511 => "Network Authentication Required"
  | _ => "<unknown status code>"

def isFailure (response : HttpResponse) : Bool := 400 ≤ response.code && response.code ≤ 599

end HttpResponse

/-! ### Failures and statuses -/

/-- A failure reads from an object with at least its status and code. -/
instance : Codec ApiFailure where
  encode f := .object [("code", .ofNat f.code.toNat), ("message", .string f.message),
    ("reason", .string f.reason), ("status", .string f.status)]
  decode? json := do
    let r ← Record.of? ["status", "message", "reason", "code"] json
    let status ← r.required? 0 "status"
    let message ← r.withDefault? 1 "message" ""
    let reason ← r.withDefault? 2 "reason" ""
    let code ← (r.written? 3 "code").bind fun json => json.intWithin? 0 65536
    some { status, message, reason, code := UInt16.ofNat code.toNat }

/-- The failure that an answer tells: the one in its body, or else one made of the status line and
the quoted body. -/
def HttpResponse.failure (response : HttpResponse) : ApiFailure :=
  match response.body.written?.bind decode? with
  | some failure => failure
  | none =>
    { status := toString response.code ++ " " ++ reasonPhrase response.code
      message := Text.quoted response.body.toText
      reason := "Failed to parse error data"
      code := UInt16.ofNat response.code }

structure StatusCause where
  reason : String
  message : String
  field : String
  deriving DecidableEq

instance : Codec StatusCause where
  encode c :=
    .object (member "field" c.field ++ member "message" c.message ++ member "reason" c.reason)
  decode? json := do
    let r ← Record.of? ["reason", "message", "field"] json
    let reason ← r.withDefault? 0 "reason" ""
    let message ← r.withDefault? 1 "message" ""
    let field ← r.withDefault? 2 "field" ""
    some { reason, message, field }

structure StatusDetails where
  name : String
  group : String
  kind : String
  uid : String
  causes : List StatusCause
  retryAfterSeconds : UInt32
  deriving DecidableEq

instance : Codec StatusDetails where
  encode d := .object (member "causes" d.causes ++ member "group" d.group ++ member "kind" d.kind ++
    member "name" d.name ++ member "retryAfterSeconds" d.retryAfterSeconds ++ member "uid" d.uid)
  decode? json := do
    let r ← Record.of? ["name", "group", "kind", "uid", "causes", "retryAfterSeconds"] json
    let name ← r.withDefault? 0 "name" ""
    let group ← r.withDefault? 1 "group" ""
    let kind ← r.withDefault? 2 "kind" ""
    let uid ← r.withDefault? 3 "uid" ""
    let causes ← r.withDefault? 4 "causes" []
    let retryAfterSeconds ← r.withDefault? 5 "retryAfterSeconds" 0
    some { name, group, kind, uid, causes, retryAfterSeconds }

inductive StatusResult
  | success
  | failure
  deriving DecidableEq

def StatusResult.text : StatusResult → String
  | success => "Success"
  | failure => "Failure"

/-- A result reads from its text, or from an object with null under that text alone. -/
instance : Codec StatusResult where
  encode result := .string result.text
  decode?
    | .string text => [StatusResult.success, .failure].find? fun result => result.text == text
    | .object [(text, .null)] =>
      [StatusResult.success, .failure].find? fun result => result.text == text
    | _ => none

structure StatusReport where
  result : Option StatusResult
  code : UInt16
  message : String
  reason : String
  details : Option StatusDetails
  deriving DecidableEq

instance : Codec StatusReport where
  encode s := .object (member "code" (.ofNat s.code.toNat : Json) ++
    memberSome "details" s.details ++ member "message" s.message ++ member "reason" s.reason ++
    memberSome "status" s.result)
  decode? json := do
    let r ← Record.of? ["status", "code", "message", "reason", "details"] json
    let result ← r.optional? 0 "status"
    let code ← match r.written? 1 "code" with
      | none => some 0
      | some json => json.intWithin? 0 65536
    let message ← r.withDefault? 2 "message" ""
    let reason ← r.withDefault? 3 "reason" ""
    let details ← r.optional? 4 "details"
    some { result, code := UInt16.ofNat code.toNat, message, reason, details }

end CephExport
