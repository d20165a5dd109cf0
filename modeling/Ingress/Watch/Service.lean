import Ingress.Watch.Feed

/-!
# The watch service

The service handles the events of a feed until it is asked to stop. Faults of the feed are none of
its business. The feed outlives it, and ends when it has an event that nobody takes.
-/

namespace Ingress

/-- What the log says when the watch service starts. -/
def watchStartLine : LogLine := ⟨.info, "Starting Kubernetes Route watch service"⟩

/-- What the log says when the watch service stops. -/
def watchStopLine : LogLine := ⟨.info, "Stopping Kubernetes Route watch service"⟩

/-- What the log says when the feed has an event that nobody takes. -/
def feedEndLine : LogLine := ⟨.debug, "Watch event receiver dropped, stopping watch"⟩

/-- Whether something is a fault. -/
def Report.isFault : Report → Bool
  | .fault => true
  | .event _ => false

/-- Handle the events among reports. -/
def handleReports [Monad m] (update : RouteUpdate m) : List Report → m Log
  | [] => return []
  | .fault :: rest => handleReports update rest
  | .event event :: rest => do
    let said ← event.handle update
    return said ++ (← handleReports update rest)

/-- What the service has done by the time its feed has nothing more to do. -/
structure WatchRun where
  /-- What was said. -/
  log : Log
  /-- How many faults the feed had. -/
  faults : Nat
  /-- What the feed asked for. -/
  requests : List FeedRequest

/-- Run the service on a feed until that has to wait, then stop it, and let the feed go on. -/
def watchRun [Monad m] (update : RouteUpdate m) (feed : Feed) : m WatchRun := do
  let (reports, feed) := feed.run
  let handled ← handleReports update reports
  let (late, feed) := feed.release.runToEvent
  let ending := if late.all Report.isFault then [] else [feedEndLine]
  return {
    log := watchStartLine :: handled ++ watchStopLine :: ending
    faults := (reports ++ late).countP Report.isFault
    requests := feed.requests }

end Ingress
