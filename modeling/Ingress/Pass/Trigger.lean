import Ingress.Log
import Ingress.Resource.Route

/-!
# The trigger channel

A changed route asks for a pass by putting a token into a channel from which the pass loop takes
them. The channel holds as many tokens as its capacity; a request that finds it full is satisfied
by the tokens that are there, so several changes cost one pass.
-/

namespace Ingress

/-- A channel of tokens, each of which asks for a pass. -/
structure TriggerChannel where
  /-- How many tokens it can hold. -/
  capacity : Nat := 1
  /-- How many tokens it holds. -/
  pending : Nat := 0
  /-- Whether somebody may still put tokens in. -/
  senderOpen : Bool := true
  /-- Whether somebody may still take tokens out. -/
  receiverOpen : Bool := true
  deriving DecidableEq, Repr

/-- Why a pass cannot be asked for. -/
inductive TriggerError where
  /-- Nobody takes tokens any more. -/
  | loopGone
  deriving DecidableEq, Repr

/-- The wording of an error. -/
def TriggerError.message : TriggerError → String
  | .loopGone => "reconciliation loop is no longer running"

namespace TriggerChannel

/-- Ask for a pass. -/
def request (c : TriggerChannel) : Except TriggerError TriggerChannel :=
  if !c.receiverOpen then .error .loopGone
  else if c.pending < c.capacity then .ok { c with pending := c.pending + 1 }
  else .ok c

/-- Take a token, if there is one. -/
def receive? (c : TriggerChannel) : Option TriggerChannel :=
  if c.pending = 0 then none else some { c with pending := c.pending - 1 }

/-- Whether there is no token and never will be one. -/
def isExhausted (c : TriggerChannel) : Bool :=
  c.pending = 0 && !c.senderOpen

/-- Nobody puts tokens in any more. Those that are there can still be taken. -/
def closeSender (c : TriggerChannel) : TriggerChannel :=
  { c with senderOpen := false }

/-- Nobody takes tokens out any more. Those that are there are lost. -/
def closeReceiver (c : TriggerChannel) : TriggerChannel :=
  { c with pending := 0, receiverOpen := false }

end TriggerChannel

/-- What the log says about a changed route. -/
def Route.changedLine (route : Route) : LogLine where
  level := .debug
  message := "Route " ++ (route.metadata.nsText ++ "/" ++ route.metadata.displayName) ++
    " changed, requesting reconciliation"

/-- What becomes of a changed route: it is logged, and a pass is asked for. -/
def Route.requestPass (route : Route) (c : TriggerChannel) :
    (Except TriggerError Unit × Log) × TriggerChannel :=
  match c.request with
  | .ok c => ((.ok (), [route.changedLine]), c)
  | .error e => ((.error e, [route.changedLine]), c)

end Ingress
