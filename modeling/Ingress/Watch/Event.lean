import Ingress.Pass.Trigger

/-!
# Watch events

What the watch of routes reports: that a route is there or has changed, that it is gone, or, after
the watch had to start over, which routes there are. Every route of an event is passed to an
update; a failed update is logged and stops nothing.
-/

namespace Ingress

/-- What the watch of routes reports. -/
inductive WatchEvent where
  /-- A route is there or has changed. -/
  | applied (route : Route)
  /-- A route is gone. -/
  | deleted (route : Route)
  /-- The watch has started over with these routes. -/
  | restarted (routes : List Route)

/-- The routes that an event is about. -/
def WatchEvent.routes : WatchEvent → List Route
  | .applied route | .deleted route => [route]
  | .restarted routes => routes

/-- What is done with a changed route: it succeeds or fails for a reason, and says something. -/
abbrev RouteUpdate (m : Type → Type) := Route → m (Except String Unit × Log)

/-- What the log says about an update. -/
def updateLog : Except String Unit × Log → Log
  | (.ok (), said) => said
  | (.error reason, said) =>
    said ++ [⟨.error, "Error running watch service update: " ++ reason⟩]

/-- Update with one route after the other. -/
def updateAll [Monad m] (update : RouteUpdate m) : List Route → m Log
  | [] => return []
  | route :: rest => do
    let said := updateLog (← update route)
    return said ++ (← updateAll update rest)

/-- Handle an event. -/
def WatchEvent.handle [Monad m] (update : RouteUpdate m) (event : WatchEvent) : m Log := do
  return ⟨.debug, "Received a watch event"⟩ :: (← updateAll update event.routes)

/-- The update that asks for a pass. -/
def requestPassUpdate : RouteUpdate (StateM TriggerChannel) := fun route channel =>
  let ((result, said), channel) := route.requestPass channel
  ((result.mapError TriggerError.message, said), channel)

end Ingress
