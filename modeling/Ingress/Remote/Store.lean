import Ingress.Remote.Collection
import Ingress.Remote.FormEncoding
import Ingress.Store.Basic
import Ingress.Synthesis.Naming

/-!
# The cluster as a store

Every operation of a store is one request to the cluster. How a request is answered is left open:
`send` may ask a real cluster or read replies from a script. A request that cannot be addressed is
never sent, and neither is one that would write an object without a namespace.
-/

namespace Ingress.Remote

variable {m : Type → Type} [Monad m]

/-- Send a request, and take what it asks for from the reply. -/
def exchange (send : Request → m Reply) (method address : String) (query : List Char)
    (body : Option Json) (read : String → Except RequestError α) : m (Except RequestError α) := do
  match Address.ofText? (address.toList ++ query) with
  | none => return .error .unbuildable
  | some address => return (← send { method, address, body }).content read

/-- An operation whose failure is a failure of the store. -/
def toStoreError : Except RequestError α → Except StoreError α
  | .ok value => .ok value
  | .error error => .error (.ofRequestError error)

/-- The query of a request that writes. -/
def writeQuery : List Char := '?' :: formParameter "fieldManager" manager

/-- What a request that deletes asks for: that dependent objects go afterwards. -/
def deleteBody : Json := .object [("propagationPolicy", .string "Background")]

/-- The shape of a verdict: whether a deletion has succeeded or failed, in the cluster's words. -/
def verdictShape : Json.Shape Bool :=
  .choice [("Success", true), ("Failure", false)]

/-- The shape of one of the reasons in a status, of which nothing is kept. -/
def causeShape : Json.Shape Unit := .record "StatusCause" <|
  (fun _ _ _ => ()) <$> .defaulted "reason" "" .text <*> .defaulted "message" "" .text <*>
    .defaulted "field" "" .text

/-- The shape of the details of a status, of which nothing is kept. -/
def detailsShape : Json.Shape Unit := .record "StatusDetails" <|
  (fun _ _ _ _ _ _ => ()) <$> .defaulted "name" "" .text <*> .defaulted "group" "" .text <*>
    .defaulted "kind" "" .text <*> .defaulted "uid" "" .text <*>
    .defaulted "causes" [] (.list causeShape) <*>
    .defaulted "retryAfterSeconds" 0 (.integerIn 0 4294967295)

/-- The shape of a status, of which nothing is kept. -/
def statusShape : Json.Shape Unit := .record "Status" <|
  (fun _ _ _ _ _ => ()) <$> .nullable "status" verdictShape <*> .defaulted "code" 0 .uint16 <*>
    .defaulted "message" "" .text <*> .defaulted "reason" "" .text <*>
    .optional "details" detailsShape

/-- Whether a document is a status, by the kind that it says it is. -/
def isStatus (document : Json) : Bool :=
  document.lastField? "kind" matches some (.string "Status")

/-- Read the reply to a deletion: a status, or the object that goes. Which of them it is shows
only in the whole document, so that all of it has to be readable. -/
def decodeDeletion (K : Type) [Resource K] (body : String) : Except RequestError Unit :=
  match Json.ofText body with
  | none => .error .undecodable
  | some document =>
    if isStatus document then decode statusShape body
    else decode ((Resource.shape (K := K)).map fun _ => ()) body

/-- The path of an object. -/
def objectPath (K : Type) [Resource K] (ns name : String) : String :=
  collectionPath K (some ns) ++ "/" ++ name

section Operations

variable {K : Type} [Resource K] (send : Request → m Reply)

/-- Read an object. Only a refusal for exactly this reason means that it is not there. -/
def getObject (ns name : String) : m (Except StoreError (Option K)) := do
  match ← exchange send "GET" (objectPath K ns name) [] none
      (decode (Resource.shape (K := K))) with
  | .ok object => return .ok (some object)
  | .error (.api status) =>
    if status.reason = "NotFound" then return .ok none
    else return .error (.ofRequestError (.api status))
  | .error error => return .error (.ofRequestError error)

/-- Add an object. -/
def createObject (object : K) : m (Except StoreError K) := do
  match Resource.ns object with
  | none => return .error (.missingNamespace (Resource.name object))
  | some ns =>
    return toStoreError (← exchange send "POST" (collectionPath K (some ns)) writeQuery
      (some (Resource.toJson object)) (decode Resource.shape))

/-- Put an object in the place of the one it was read from. -/
def replaceObject (object : K) : m (Except StoreError K) := do
  match Resource.ns object with
  | none => return .error (.missingNamespace (Resource.name object))
  | some ns =>
    return toStoreError (← exchange send "PUT" (objectPath K ns (Resource.name object)) writeQuery
      (some (Resource.toJson object)) (decode Resource.shape))

/-- Take an object away. -/
def deleteObject (K : Type) [Resource K] (send : Request → m Reply) (ns name : String) :
    m (Except StoreError Unit) := do
  match toStoreError (← exchange send "DELETE" (objectPath K ns name) ['?'] (some deleteBody)
      (decodeDeletion K)) with
  | .error (.notFound _) => return .ok ()
  | answer => return answer

/-- Read all objects of a collection, with a query. -/
def listObjects (ns : Option String) (query : List Char) : m (Except StoreError (List K)) := do
  let answer ← exchange send "GET" (collectionPath K ns) ('?' :: query) none
    (decode (ObjectList.shape (Resource.shape (K := K))))
  return toStoreError (answer.map ObjectList.items)

/-- The cluster as a store of one kind. -/
def store : Store m K where
  get ns name := getObject send ns name
  create object := createObject send object
  replace object := replaceObject send object
  delete ns name := deleteObject K send ns name
  list ns selector := listObjects send ns (formParameter "labelSelector" selector)

end Operations

/-- List the routes of a namespace, or of the whole cluster. -/
def listRoutes (send : Request → m Reply) (ns : Option String) :
    m (Except StoreError (List Route)) :=
  listObjects send ns []

end Ingress.Remote
