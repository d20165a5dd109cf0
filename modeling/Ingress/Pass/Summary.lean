import Ingress.Log
import Ingress.Pass.Apply
import Ingress.Synthesis.Error

/-!
# Summaries

What one pass did: how many objects it created, updated, left and deleted, which hostnames it
could not synthesize, and which operations failed.
-/

namespace Ingress

/-- An operation that failed, on one object or, without a name, on the listing of a kind. -/
structure ApplyFailure where
  /-- The kind of the object. -/
  kind : String
  /-- The namespace, nothing where there is none. -/
  ns : String
  /-- The name. -/
  name : String
  /-- Why it failed. -/
  error : StoreError
  deriving DecidableEq

/-- What a pass did. -/
structure Summary where
  /-- How many objects were created. -/
  created : Nat := 0
  /-- How many objects were updated. -/
  updated : Nat := 0
  /-- How many objects were as desired. -/
  unchanged : Nat := 0
  /-- How many objects were deleted. -/
  deleted : Nat := 0
  /-- The hostnames that could not be synthesized. -/
  groupErrors : List GroupError := []
  /-- The operations that failed. -/
  failures : List ApplyFailure := []
  deriving DecidableEq

namespace Summary

/-- Count an outcome. -/
def record (s : Summary) : Outcome → Summary
  | .created => { s with created := s.created + 1 }
  | .updated => { s with updated := s.updated + 1 }
  | .unchanged => { s with unchanged := s.unchanged + 1 }

/-- Add a failure. -/
def fail (s : Summary) (failure : ApplyFailure) : Summary :=
  { s with failures := s.failures ++ [failure] }

/-- Whether nothing went wrong. -/
def isClean (s : Summary) : Bool :=
  s.groupErrors.isEmpty && s.failures.isEmpty

/-- The counts in words. -/
def counts (s : Summary) : String :=
  toString s.created ++ " created, " ++ toString s.updated ++ " updated, " ++
    toString s.unchanged ++ " unchanged, " ++ toString s.deleted ++ " deleted"

/-- What the log says after a pass. -/
def logLine (s : Summary) : LogLine :=
  if s.isClean then
    { level := .info, message := "Reconciliation pass finished: " ++ s.counts }
  else
    { level := .warn
      message := "Reconciliation pass finished with " ++ toString s.groupErrors.length ++
        " invalid hostnames and " ++ toString s.failures.length ++ " failed objects: " ++
        s.counts }

end Summary

end Ingress
