import Ingress.Resource.Labels
import Ingress.Resource.Timestamp

/-!
# Object metadata

What every cluster object says about itself. A part that was never set differs from an empty
one, so every part is optional and is written only when it is there. Metadata is read loosely:
unknown keys are skipped, null counts as absent and the last of repeated keys wins. The one part
that is not kept is the record of who has set which field (`managedFields`), which nothing here
looks at or changes.
-/

namespace Ingress

/-- A reference from an object to one that owns it. -/
structure OwnerReference where
  /-- The API version of the owner. -/
  apiVersion : String
  /-- The kind of the owner. -/
  kind : String
  /-- The name of the owner. -/
  name : String
  /-- The unique identifier of the owner. -/
  uid : String
  /-- Whether the owner is the managing controller. -/
  controller : Option Bool := none
  /-- Whether the owner may go only after this object. -/
  blockOwnerDeletion : Option Bool := none
  deriving DecidableEq

/-- What an object says about itself. -/
structure Metadata where
  /-- The name, unique within a namespace. -/
  name : Option String := none
  /-- What a generated name starts with. -/
  generateName : Option String := none
  /-- The namespace. -/
  ns : Option String := none
  /-- The unique identifier. -/
  uid : Option String := none
  /-- The stamp of the last write. -/
  resourceVersion : Option String := none
  /-- The path of the object. -/
  selfLink : Option String := none
  /-- How often the specification has changed. -/
  generation : Option Int64 := none
  /-- The labels. -/
  labels : Option Labels := none
  /-- The annotations. -/
  annotations : Option Labels := none
  /-- What has to happen before the object may go. -/
  finalizers : Option (List String) := none
  /-- When the object was created. -/
  creationTimestamp : Option Timestamp := none
  /-- When the object was asked to go. -/
  deletionTimestamp : Option Timestamp := none
  /-- How many seconds the object has for going. -/
  deletionGracePeriodSeconds : Option Int64 := none
  /-- The owners. -/
  ownerReferences : Option (List OwnerReference) := none
  deriving DecidableEq

namespace OwnerReference

/-- The written form. -/
def toJson (owner : OwnerReference) : Json :=
  .ofFields [
    some ("apiVersion", .string owner.apiVersion),
    owner.blockOwnerDeletion.map fun b => ("blockOwnerDeletion", .bool b),
    owner.controller.map fun b => ("controller", .bool b),
    some ("kind", .string owner.kind),
    some ("name", .string owner.name),
    some ("uid", .string owner.uid)]

/-- The shape of a reference; an absent text is empty. -/
def shape : Json.Shape OwnerReference := .looseRecord <|
  OwnerReference.mk <$> .looseOr "apiVersion" "" .text <*> .looseOr "kind" "" .text <*>
    .looseOr "name" "" .text <*> .looseOr "uid" "" .text <*> .loose "controller" .bool <*>
    .loose "blockOwnerDeletion" .bool

end OwnerReference

namespace Timestamp

/-- The shape of a timestamp. -/
def shape : Json.Shape Timestamp :=
  .textAs fun text => (ofText text).mapError fun e => .malformed e.message

end Timestamp

namespace Metadata

/-- The name, else what a generated name starts with, else nothing. -/
def displayName (m : Metadata) : String :=
  (m.name.orElse fun _ => m.generateName).getD ""

/-- The namespace, nothing where there is none. -/
def nsText (m : Metadata) : String :=
  m.ns.getD ""

/-- The written form: every part that is there. -/
def toJson (m : Metadata) : Json :=
  .ofFields [
    m.annotations.map fun a => ("annotations", a.toJson),
    m.creationTimestamp.map fun t => ("creationTimestamp", .string t.text),
    m.deletionGracePeriodSeconds.map fun n =>
      ("deletionGracePeriodSeconds", .integer n.toInt),
    m.deletionTimestamp.map fun t => ("deletionTimestamp", .string t.text),
    m.finalizers.map fun f => ("finalizers", .ofList .string f),
    m.generateName.map fun n => ("generateName", .string n),
    m.generation.map fun n => ("generation", .integer n.toInt),
    m.labels.map fun l => ("labels", l.toJson),
    m.name.map fun n => ("name", .string n),
    m.ns.map fun n => ("namespace", .string n),
    m.ownerReferences.map fun o => ("ownerReferences", .ofList OwnerReference.toJson o),
    m.resourceVersion.map fun v => ("resourceVersion", .string v),
    m.selfLink.map fun s => ("selfLink", .string s),
    m.uid.map fun u => ("uid", .string u)]

/-- The shape of metadata. -/
def shape : Json.Shape Metadata := .looseRecord <|
  Metadata.mk <$> .loose "name" .text <*> .loose "generateName" .text <*>
    .loose "namespace" .text <*> .loose "uid" .text <*> .loose "resourceVersion" .text <*>
    .loose "selfLink" .text <*> .loose "generation" .int64 <*> .loose "labels" Labels.shape <*>
    .loose "annotations" Labels.shape <*> .loose "finalizers" (.list .text) <*>
    .loose "creationTimestamp" Timestamp.shape <*> .loose "deletionTimestamp" Timestamp.shape <*>
    .loose "deletionGracePeriodSeconds" .int64 <*>
    .loose "ownerReferences" (.list OwnerReference.shape)

end Metadata

end Ingress
