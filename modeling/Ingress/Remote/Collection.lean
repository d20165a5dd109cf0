import Ingress.Remote.Exchange
import Ingress.Resource.Basic

/-!
# Collections of cluster objects

The objects of a kind lie in one collection for each namespace and in one for the whole cluster.
A reply to the listing of a collection holds its objects and says which version of it they are,
and whether there are more.
-/

namespace Ingress.Remote

/-- What a list says about itself. -/
structure ListMetadata where
  /-- Where the next part of the list begins. -/
  continueToken : Option String := none
  /-- The version of the collection. -/
  resourceVersion : Option String := none
  deriving DecidableEq

/-- Objects with what their list says about itself. -/
structure ObjectList (K : Type) where
  /-- What the list says about itself. -/
  metadata : ListMetadata
  /-- The objects. -/
  items : List K

/-- The shape of what a list says about itself. -/
def ListMetadata.shape : Json.Shape ListMetadata := .looseRecord <|
  (fun continueToken _ resourceVersion _ => { continueToken, resourceVersion }) <$>
    .loose "continue" .text <*> .loose "remainingItemCount" .int64 <*>
    .loose "resourceVersion" .text <*> .loose "selfLink" .text

/-- The shape of a list; no items may be written as null. What it says about its kind, or whatever
else it says, is read and does not matter. -/
def ObjectList.shape (item : Json.Shape K) : Json.Shape (ObjectList K) :=
  (Json.Shape.embedding
    (ObjectList.mk <$> .required "metadata" ListMetadata.shape <*>
      ((·.getD []) <$> .required "items" (.nullable (.list item))))
    (pure ())).map (·.1)

/-- Whether an API version names a group of kinds. -/
def isGrouped (apiVersion : String) : Bool :=
  apiVersion.toList.contains '/'

/-- The path of the collection of a kind in a namespace, or in the whole cluster. -/
def collectionPath (K : Type) [Resource K] (ns : Option String) : String :=
  (if isGrouped (Resource.apiVersion K) then "/apis/" else "/api/") ++ Resource.apiVersion K ++
    (match ns with
    | some ns => "/namespaces/" ++ ns ++ "/"
    | none => "/") ++
    Resource.plural K

end Ingress.Remote
