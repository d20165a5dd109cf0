import Ingress.Log

/-!
# The life of the API server

What the API server says while it starts and stops. Without a listener it ends at once; with one
it serves until it is asked to stop or nobody is left who could ask.
-/

namespace Ingress.Api

/-- Why a server that serves stops. -/
inductive StopCause where
  /-- It has been asked to. -/
  | requested
  /-- Nobody is left who could ask it. -/
  | abandoned
  deriving DecidableEq, Repr

/-- What the log says when a server starts, with the address it listens on if it has one. -/
def startLog : Option String → Log
  | some address => [⟨.info, "API server listening on " ++ address⟩]
  | none => [⟨.error, "Error running API web service: error creating listener"⟩]

/-- What the log says when a server stops. -/
def stopLog (cause : StopCause) : Log :=
  match cause with
  | .requested => [⟨.info, "Shutting down API server"⟩]
  | .abandoned => [
      ⟨.debug, "Error while waiting for API shutdown signal: channel closed"⟩,
      ⟨.info, "Shutting down API server"⟩]

end Ingress.Api
