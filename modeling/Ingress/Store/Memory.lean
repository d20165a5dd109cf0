import Std.Data.ExtTreeMap
import Ingress.Store.Basic
import Ingress.Store.Selector

/-!
# Stores in memory

Objects lie under their keys, in ascending order. Every successful write stamps the object with
the next version, and an object can only be replaced by a copy that carries the version of the
live one, so a write that was based on an outdated copy is refused.
-/

namespace Ingress

/-- The objects of one kind with the next version and the number of writes. -/
structure MemoryStore (K : Type) where
  /-- The live objects by their keys. -/
  objects : Std.ExtTreeMap ObjectKey K := ∅
  /-- The version that the next write stamps. -/
  version : UInt64 := 1
  /-- How many writes have succeeded, in a word that comes round to 0. -/
  writeCount : UInt64 := 0

namespace MemoryStore

/-- How many writes have succeeded. -/
def writes (s : MemoryStore K) : Nat := s.writeCount.toNat

variable [Resource K]

/-- The names of all objects, ascending. -/
def names (s : MemoryStore K) : List String :=
  (s.objects.toList.map fun (key, _) => key.name).mergeSort

/-- An object with a name, of whatever namespace; the first in the order of keys. -/
def find? (s : MemoryStore K) (name : String) : Option K :=
  (s.objects.toList.find? fun (key, _) => key.name = name).map (·.2)

/-- Put an object under its key as it is: no version is checked or stamped. -/
def insert (s : MemoryStore K) (object : K) : MemoryStore K :=
  { s with objects := s.objects.insert (Resource.key object) object }

/-- Take an object away, uncounted. -/
def remove (s : MemoryStore K) (key : ObjectKey) : MemoryStore K :=
  { s with objects := s.objects.erase key }

/-- The object with the next version on it. -/
def stamped (s : MemoryStore K) (object : K) : K :=
  Resource.withMetadata object
    { Resource.metadata object with resourceVersion := some (toString s.version.toNat) }

/-- Store an object under a key with the next version on it. -/
def write (s : MemoryStore K) (key : ObjectKey) (object : K) : MemoryStore K where
  objects := s.objects.insert key (s.stamped object)
  version := s.version + 1
  writeCount := s.writeCount + 1

/-- The object under a key. -/
def get? (s : MemoryStore K) (key : ObjectKey) : Option K := s.objects[key]?

/-- The object with the identifier that a store gives. -/
def identified (object : K) : K :=
  Resource.withMetadata object
    { Resource.metadata object with uid := some ("uid-" ++ Resource.name object) }

/-- Add an object under a key that is free. -/
def create (s : MemoryStore K) (object : K) : Except StoreError K × MemoryStore K :=
  match Resource.ns object with
  | none => (.error (.missingNamespace (Resource.name object)), s)
  | some _ =>
    let key := Resource.key object
    match s.get? key with
    | some _ => (.error (.alreadyExists key.name), s)
    | none => (.ok (s.stamped (identified object)), s.write key (identified object))

/-- Put an object in the place of the live one, if it carries the live one's version. -/
def replace (s : MemoryStore K) (object : K) : Except StoreError K × MemoryStore K :=
  let key := Resource.key object
  match s.get? key with
  | none => (.error (.notFound key.name), s)
  | some live =>
    if (Resource.metadata live).resourceVersion ≠ (Resource.metadata object).resourceVersion then
      (.error (.conflict key.name), s)
    else (.ok (s.stamped object), s.write key object)

/-- Take an object away. Only what was there counts as a write. -/
def delete (s : MemoryStore K) (key : ObjectKey) : MemoryStore K :=
  match s.get? key with
  | none => s
  | some _ => { s.remove key with writeCount := s.writeCount + 1 }

/-- The objects of a namespace, or of all, that a selector picks, in the order of keys. -/
def list (s : MemoryStore K) (ns : Option String) (selector : String) : List K :=
  (s.objects.toList.filter fun (key, object) =>
    (ns.all fun ns => key.ns = ns) && selects selector (Resource.labels object)).map (·.2)

/-- The operations of a store on a store in memory. -/
def store : Store (StateM (MemoryStore K)) K where
  get ns name := fun s => (.ok (s.get? ⟨ns, name⟩), s)
  create object := fun s => s.create object
  replace object := fun s => s.replace object
  delete ns name := fun s => (.ok (), s.delete ⟨ns, name⟩)
  list ns selector := fun s => (.ok (s.list ns selector), s)

end MemoryStore

end Ingress
