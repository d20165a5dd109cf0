import Ingress.Store.Memory

/-!
# Stores that fail on demand

A store in memory with armed faults. The first fault that fits an operation and has uses left
is used once, and it takes effect before the operation: the operation fails, or finds nothing,
or finds that another writer was faster.
-/

namespace Ingress

/-- The operations that a fault can be armed for. -/
inductive StoreVerb where
  /-- Reading one object. -/
  | get
  /-- Adding an object. -/
  | create
  /-- Replacing an object. -/
  | replace
  /-- Taking an object away. -/
  | delete
  /-- Reading many objects. -/
  | list
  deriving DecidableEq

/-- What a fault does. -/
inductive FaultEffect where
  /-- The operation fails. -/
  | fail (error : StoreError)
  /-- A read finds nothing. -/
  | miss
  /-- Another writer has written the live object, unchanged, before a replacement. -/
  | stale
  /-- The live object has been taken away before a replacement. -/
  | vanish

/-- A fault that is armed for an operation. -/
structure ArmedFault where
  /-- The operation. -/
  verb : StoreVerb
  /-- The name it has to be about; none for any. -/
  name : Option String := none
  /-- How often it can still be used. -/
  uses : Nat := 1
  /-- What it does. -/
  effect : FaultEffect

/-- Whether a fault fits an operation. An operation on many objects is about no name. -/
def ArmedFault.fits (fault : ArmedFault) (verb : StoreVerb) (name : Option String) : Bool :=
  fault.uses ≠ 0 && fault.verb = verb && (fault.name.isNone || fault.name = name)

/-- A store in memory with its armed faults, in the order in which they were armed. -/
structure FaultyStore (K : Type) where
  /-- The store. -/
  memory : MemoryStore K := {}
  /-- The faults. -/
  faults : List ArmedFault := []

namespace FaultyStore

/-- Use the first fault that fits once; its effect and what is left. -/
def useFault (verb : StoreVerb) (name : Option String) :
    List ArmedFault → Option FaultEffect × List ArmedFault
  | [] => (none, [])
  | fault :: rest =>
    if fault.fits verb name then
      (some fault.effect, { fault with uses := fault.uses - 1 } :: rest)
    else
      let (effect, rest) := useFault verb name rest
      (effect, fault :: rest)

/-- Arm a fault. -/
def arm (s : FaultyStore K) (fault : ArmedFault) : FaultyStore K :=
  { s with faults := s.faults ++ [fault] }

variable [Resource K]

/-- What happens to the store before an operation for a fault's sake. -/
def disturb (object : K) (s : MemoryStore K) : FaultEffect → MemoryStore K
  | .stale =>
    match s.get? (Resource.key object) with
    | some live => s.write (Resource.key object) live
    | none => s
  | .vanish => s.delete (Resource.key object)
  | .fail _ | .miss => s

/-- Run an operation behind the faults: `meddle` says what a fault that is no failure does. -/
def guarded (verb : StoreVerb) (name : Option String)
    (meddle : FaultEffect → MemoryStore K → Option (Except StoreError α) × MemoryStore K)
    (operation : MemoryStore K → Except StoreError α × MemoryStore K) :
    StateM (FaultyStore K) (Except StoreError α) := fun s =>
  match useFault verb name s.faults with
  | (some (.fail error), faults) => (.error error, { s with faults })
  | (some effect, faults) =>
    match meddle effect s.memory with
    | (some answer, memory) => (answer, { memory, faults })
    | (none, memory) =>
      let (answer, memory) := operation memory
      (answer, { memory, faults })
  | (none, faults) =>
    let (answer, memory) := operation s.memory
    (answer, { memory, faults })

/-- A fault that finds nothing ends a read. -/
def missing (effect : FaultEffect) (s : MemoryStore K) :
    Option (Except StoreError (Option K)) × MemoryStore K :=
  match effect with
  | .miss => (some (.ok none), s)
  | _ => (none, s)

/-- A fault that has no meaning for an operation changes nothing. -/
def idle (_ : FaultEffect) (s : MemoryStore K) : Option α × MemoryStore K := (none, s)

/-- The operations of a store behind the faults. -/
def store : Store (StateM (FaultyStore K)) K where
  get ns name := guarded .get (some name) missing fun s => (.ok (s.get? ⟨ns, name⟩), s)
  create object := guarded .create (some (Resource.name object)) idle fun s => s.create object
  replace object :=
    guarded .replace (some (Resource.name object)) (fun effect s => (none, disturb object s effect))
      fun s => s.replace object
  delete ns name := guarded .delete (some name) idle fun s => (.ok (), s.delete ⟨ns, name⟩)
  list ns selector := guarded .list none idle fun s => (.ok (s.list ns selector), s)

end FaultyStore

end Ingress
