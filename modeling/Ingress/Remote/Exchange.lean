import Ingress.Json.Shape
import Ingress.Remote.Address
import Ingress.Store.Error

/-!
# Exchanges with the cluster

A request to the cluster's API and what its reply means. A reply with an error code is a refusal:
its body says why, or, where it cannot be read, is quoted itself. Any other reply holds what was
asked for.
-/

namespace Ingress.Remote

/-- A request to the cluster. -/
structure Request where
  /-- The method. -/
  method : String
  /-- What is asked for. -/
  address : Address
  /-- What is sent. -/
  body : Option Json := none

/-- A reply of the cluster. -/
structure Reply where
  /-- The status code. -/
  status : Nat
  /-- The body. -/
  body : String

/-- The names of the codes of refusals. -/
def statusNames : List (Nat × String) := [
  (400, "Bad Request"),
  (401, "Unauthorized"),
  (402, "Payment Required"),
  (403, "Forbidden"),
  (404, "Not Found"),
  (405, "Method Not Allowed"),
  (406, "Not Acceptable"),
  (407, "Proxy Authentication Required"),
  (408, "Request Timeout"),
  (409, "Conflict"),
  (410, "Gone"),
  (411, "Length Required"),
  (412, "Precondition Failed"),
  (413, "Payload Too Large"),
  (414, "URI Too Long"),
  (415, "Unsupported Media Type"),
  (416, "Range Not Satisfiable"),
  (417, "Expectation Failed"),
  (418, "I'm a teapot"),
  (421, "Misdirected Request"),
  (422, "Unprocessable Entity"),
  (423, "Locked"),
  (424, "Failed Dependency"),
  (425, "Too Early"),
  (426, "Upgrade Required"),
  (428, "Precondition Required"),
  (429, "Too Many Requests"),
  (431, "Request Header Fields Too Large"),
  (451, "Unavailable For Legal Reasons"),
  (500, "Internal Server Error"),
  (501, "Not Implemented"),
  (502, "Bad Gateway"),
  (503, "Service Unavailable"),
  (504, "Gateway Timeout"),
  (505, "HTTP Version Not Supported"),
  (506, "Variant Also Negotiates"),
  (507, "Insufficient Storage"),
  (508, "Loop Detected"),
  (510, "Not Extended"),
  (511, "Network Authentication Required")]

/-- A status code with its name. -/
def statusText (status : Nat) : String :=
  toString status ++ " " ++ (statusNames.lookup status).getD "<unknown status code>"

/-- A refusal with what it says. -/
def refusalOf (status message reason : String) (code : UInt16) : ApiStatus :=
  { status, message, reason, code }

/-- The shape of a refusal. -/
def refusalShape : Json.Shape ApiStatus := .record "ErrorResponse" <|
  refusalOf <$> .required "status" .text <*> .defaulted "message" "" .text <*>
    .defaulted "reason" "" .text <*> .required "code" .uint16

/-- Read a body as a value of some type. -/
def decode (shape : Json.Shape α) (body : String) : Except RequestError α :=
  (shape.ofText body).mapError fun _ => .undecodable

namespace Reply

/-- Whether a reply refuses the request. -/
def isRefusal (r : Reply) : Bool :=
  400 ≤ r.status && r.status < 600

/-- Why a reply refuses the request. -/
def refusal (r : Reply) : ApiStatus :=
  match decode refusalShape r.body with
  | .ok status => status
  | .error _ => {
      status := statusText r.status
      message := Text.quoted r.body
      reason := "Failed to parse error data"
      code := UInt16.ofNat r.status }

/-- What a reply holds, or why it holds nothing. -/
def content (r : Reply) (read : String → Except RequestError α) : Except RequestError α :=
  if r.isRefusal then .error (.api r.refusal) else read r.body

end Reply

end Ingress.Remote
