import Ingress.Json.Value
import Ingress.Log

/-!
# Requests and responses

What the controller is asked over HTTP and what it answers, without the connection between.
-/

namespace Ingress.Api

/-- A request. -/
structure Request where
  /-- The method. -/
  method : String
  /-- What is asked for: a path, perhaps behind a scheme and a server, and a query if any. -/
  target : String
  /-- The media type of the body, if it was named. -/
  contentType : Option String := none
  /-- The body. -/
  body : String := ""

/-- Whether a character ends a path. -/
def endsPath (c : Char) : Bool :=
  c = '?' || c = '#'

/-- Whether a character may stand in the scheme of a target. -/
def isSchemeCharacter (c : Char) : Bool :=
  c.isAlphanum || c = '+' || c = '-' || c = '.'

/-- A target without its scheme and server, if it has them. -/
def withoutServer (target : List Char) : List Char :=
  let scheme := target.takeWhile isSchemeCharacter
  match target.drop scheme.length with
  | ':' :: '/' :: '/' :: rest => rest.dropWhile fun c => c ≠ '/' && !endsPath c
  | _ => target

/-- The path that is asked for. -/
def Request.path (r : Request) : String :=
  String.ofList ((withoutServer r.target.toList).takeWhile fun c => !endsPath c)

/-- The body of a response. -/
inductive Body where
  /-- A text. -/
  | text (content : String)
  /-- A JSON document. -/
  | json (content : Json)

/-- The media type of a body. -/
def Body.contentType : Body → String
  | .text _ => "text/plain; charset=utf-8"
  | .json _ => "application/json"

/-- A response. -/
inductive Response where
  /-- What was asked for. -/
  | ok (body : Body)
  /-- The body of the request is no JSON text. -/
  | badRequest
  /-- There is nothing at the path. -/
  | notFound
  /-- The path knows other methods. -/
  | methodNotAllowed (allowed : List String)
  /-- The body of the request is too large. -/
  | tooLarge
  /-- The body of the request is not said to be JSON. -/
  | unsupportedMediaType
  /-- The body of the request has another shape. -/
  | unprocessable
  /-- The controller cannot answer. -/
  | failed (body : Body)

namespace Response

/-- The status code. -/
def status : Response → Nat
  | .ok _ => 200
  | .badRequest => 400
  | .notFound => 404
  | .methodNotAllowed _ => 405
  | .tooLarge => 413
  | .unsupportedMediaType => 415
  | .unprocessable => 422
  | .failed _ => 500

/-- The body, where the controller itself has written one. -/
def body? : Response → Option Body
  | .ok body | .failed body => some body
  | _ => none

end Response

/-- Why the controller cannot answer. -/
inductive ApiError where
  /-- No pass has listed the routes yet. -/
  | uninitialized
  deriving DecidableEq, Repr

namespace ApiError

/-- The wording of an error. -/
def message : ApiError → String
  | .uninitialized => "uninitialized: have not yet synchronized with the route source"

/-- The response to a request that meets an error. -/
def response (e : ApiError) : Response :=
  .failed (.json (.object [("error", .string e.message)]))

/-- What the log says about a request that meets an error. -/
def log (e : ApiError) : Log :=
  [⟨.error, "API request failed: " ++ e.message⟩]

end ApiError

end Ingress.Api
