import Ingress.Text.Quoted

/-!
# Store errors

Why an operation on a store of cluster objects fails. Errors that the next pass can be
expected not to meet again are retryable; the others need intervention.
-/

namespace Ingress

/-- What the cluster answers when it refuses a request. -/
structure ApiStatus where
  /-- Success or failure, in its own words. -/
  status : String := "Failure"
  /-- What is wrong. -/
  message : String := ""
  /-- What is wrong, in one word. -/
  reason : String := ""
  /-- The status code. -/
  code : UInt16 := 0
  deriving DecidableEq, Repr

/-- The wording of a refusal. -/
def ApiStatus.text (s : ApiStatus) : String :=
  "ApiError: " ++ s.message ++ ": " ++ s.reason ++
    " (ErrorResponse \x7b status: " ++ Text.quoted s.status ++
    ", message: " ++ Text.quoted s.message ++
    ", reason: " ++ Text.quoted s.reason ++
    ", code: " ++ toString s.code.toNat ++ " \x7d)"

/-- Why a request to the cluster fails. -/
inductive RequestError where
  /-- The cluster refuses it. -/
  | api (status : ApiStatus)
  /-- The answer is not what was asked for. -/
  | undecodable
  /-- The answer is a stream without line ends. -/
  | endlessLine
  /-- The request cannot be put into a message. -/
  | unbuildable
  deriving DecidableEq, Repr

/-- The wording of an error. -/
def RequestError.text : RequestError → String
  | .api status => status.text
  | .undecodable => "Error deserializing response"
  | .endlessLine => "Error finding newline character"
  | .unbuildable => "Failed to build request"

/-- Why an operation on a store fails. -/
inductive StoreError where
  /-- An object that was to be created is there. -/
  | alreadyExists (subject : String)
  /-- An object has been written since it was read. -/
  | conflict (subject : String)
  /-- An object is not there. -/
  | notFound (subject : String)
  /-- An object that was to be written has no namespace. -/
  | missingNamespace (subject : String)
  /-- The cluster could not be asked. -/
  | request (error : RequestError)
  deriving DecidableEq, Repr

namespace StoreError

/-- The wording of an error. -/
def message : StoreError → String
  | .alreadyExists subject => subject ++ " already exists"
  | .conflict subject => "conflicting update of " ++ subject ++ ", will retry"
  | .notFound subject => subject ++ " not found"
  | .missingNamespace subject => "object " ++ subject ++ " has no namespace"
  | .request error => "Kubernetes API error: " ++ error.text

/-- Whether the next pass can be expected to succeed without intervention. -/
def retryable : StoreError → Bool
  | .alreadyExists _ | .conflict _ | .notFound _ => true
  | .missingNamespace _ | .request _ => false

/-- What a failed request means for the store: a refusal with code 409 or 404 is about the
object, all else is about the request. -/
def ofRequestError : RequestError → StoreError
  | .api status =>
    if status.code = 409 then
      if status.reason = "AlreadyExists" then .alreadyExists status.message
      else .conflict status.message
    else if status.code = 404 then .notFound status.message
    else .request (.api status)
  | error => .request error

end StoreError

end Ingress
