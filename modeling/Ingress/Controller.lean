import Ingress.Api.Server
import Ingress.Config
import Ingress.Pass.Loop
import Ingress.Watch.Service

/-!
# The controller

The controller reads its configuration, gets hold of the cluster and then runs three services side
by side: the watch of routes, the API server and the pass loop. A signal tells it to stop; then it
stops all three and waits for them.
-/

namespace Ingress.Controller

/-- Why the controller does not start. -/
inductive StartError where
  /-- There is no configuration. -/
  | config (error : ConfigError)
  /-- The cluster is out of reach. -/
  | noClient
  deriving DecidableEq, Repr

/-- The wording of an error, without the system's own explanation. -/
def StartError.message : StartError → String
  | .config error => error.message
  | .noClient => "Unable to create Kubernetes client"

/-- What the log says when the controller does not start. -/
def StartError.logLine (error : StartError) : LogLine := ⟨.error, error.message⟩

/-- Get ready to run with the bytes of a configuration file, if it can be read, and the cluster,
if it can be reached. The file is looked at first. -/
def prepare (file : Option ByteArray) (clusterInReach : Bool) : Except StartError Config :=
  match Config.ofBytes file with
  | .error error => .error (.config error)
  | .ok config => if clusterInReach then .ok config else .error .noClient

/-- Why the controller stops. -/
inductive StopSignal where
  /-- It is interrupted. -/
  | interrupt
  /-- It is told to terminate. -/
  | terminate
  deriving DecidableEq, Repr

/-- What the log says about a signal. -/
def StopSignal.logLine : StopSignal → LogLine
  | .interrupt => ⟨.info, "Received SIGINT, shutting down"⟩
  | .terminate => ⟨.info, "Received SIGTERM, shutting down"⟩

/-- The resync interval of a configuration, in milliseconds. -/
def resyncPeriod (config : Config) : Nat := config.resyncSeconds.toNat * 1000

/-- What the services say when they start with a listener at an address. -/
def startLog (config : Config) (address : String) : Log :=
  [watchStartLine] ++ Api.startLog (some address) ++ [loopStartLine (resyncPeriod config)]

/-- What the services say when they are told to stop. -/
def stopLog : Log :=
  [watchStopLine] ++ Api.stopLog .requested ++ Turn.shutdown.log

/-- What is said from the start of the services to their end. The services run side by side, so the
order of their lines among each other is one of several. -/
def lifeLog (config : Config) (address : String) (signal : StopSignal) : Log :=
  startLog config address ++ [signal.logLine] ++ stopLog

end Ingress.Controller
