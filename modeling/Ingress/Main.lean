import Ingress.CommandLine.Definitions
import Ingress.CommandLine.Options
import Ingress.Controller
import Ingress.Yaml.Block

/-!
# The program

One executable serves as both tools. Under a name that ends in `-crd` it prints definitions, under
any other it is the controller. The executable has no connection to a cluster of its own, so the
controller stops once its configuration has been found good.
-/

namespace Ingress

open CommandLine

/-- Report what is wrong with a command line. -/
def refuseUsage (error : UsageError) : IO UInt32 := do
  IO.eprintln error.message
  return 2

/-- The definition printer. -/
def printDefinitions (words : List String) : IO UInt32 := do
  match DefinitionRequest.ofWords words with
  | .ok (.print kind) =>
    IO.println (Yaml.blockText kind.definition.toJson)
    return 0
  | .ok .help =>
    IO.println DefinitionRequest.about
    return 0
  | .ok .nothing =>
    IO.eprintln DefinitionRequest.about
    return 2
  | .error error => refuseUsage error

/-- The bytes of a file, if it can be read. -/
def fileBytes (path : String) : IO (Option ByteArray) := do
  try
    return some (← IO.FS.readBinFile path)
  catch _ =>
    return none

/-- The controller. -/
def runController (words : List String) : IO UInt32 := do
  match ControllerRequest.ofWords words with
  | .ok (.run options) =>
    match Controller.prepare (← fileBytes options.configPath) false with
    | .ok _ => return 0
    | .error error =>
      for line in options.logFilter.apply [error.logLine] do
        IO.eprintln line.text
      return 1
  | .ok .help =>
    IO.println ControllerRequest.about
    return 0
  | .ok .version =>
    IO.println ControllerRequest.versionText
    return 0
  | .error error => refuseUsage error

end Ingress

/-- Run the tool that goes by the name of the executable. -/
def main (words : List String) : IO UInt32 := do
  let name := (← IO.appPath).fileName.getD ""
  if name.endsWith "-crd" then Ingress.printDefinitions words
  else Ingress.runController words
