import Ingress.CommandLine.Word
import Ingress.Log

/-!
# The command line of the controller

The controller takes two options, each with a value: the file that holds its configuration and how
much of its log is shown. Words are taken from left to right, and the first that is wrong, asks for
help or asks for the version settles the matter.
-/

namespace Ingress.CommandLine

/-- An option of the controller that has a value. -/
inductive ControllerOption where
  /-- The file that holds the configuration. -/
  | configFile
  /-- How much of the log is shown. -/
  | logLevel
  deriving DecidableEq, Repr

namespace ControllerOption

/-- How an option is called in errors. -/
def place : ControllerOption → String
  | .configFile => "--config-file <CONFIG_FILE>"
  | .logLevel => "--log-level <LOG_LEVEL>"

/-- The option that goes by a long name. -/
def ofName? : String → Option ControllerOption
  | "config-file" => some .configFile
  | "log-level" => some .logLevel
  | _ => none

end ControllerOption

/-- The options that have been given. -/
structure ControllerOptions where
  /-- The file that holds the configuration. -/
  configFile : Option String := none
  /-- Which lines of the log are shown. -/
  filter : Option LogFilter := none
  deriving DecidableEq, Repr

/-- What a command line of the controller asks for. -/
inductive ControllerRequest where
  /-- To run with some options. -/
  | run (options : ControllerOptions)
  /-- Help. -/
  | help
  /-- The version. -/
  | version
  deriving DecidableEq, Repr

namespace ControllerOptions

/-- The path of the configuration. -/
def configPath (options : ControllerOptions) : String :=
  options.configFile.getD "/etc/routecontroller/config.yaml"

/-- Which lines of the log are shown. -/
def logFilter (options : ControllerOptions) : LogFilter :=
  options.filter.getD (.upTo .info)

/-- The options with one more. -/
def give (options : ControllerOptions) (option : ControllerOption) (value : String) :
    Except UsageError ControllerOptions :=
  match option with
  | .configFile =>
    if options.configFile.isSome then .error (.repeatedOption option.place)
    else .ok { options with configFile := some value }
  | .logLevel =>
    match LogFilter.ofText? value with
    | none => .error (.ofValue value option.place)
    | some filter =>
      if options.filter.isSome then .error (.repeatedOption option.place)
      else .ok { options with filter := some filter }

end ControllerOptions

namespace ControllerRequest

/-- The name and version of the controller. -/
def versionText : String := "routecontroller 0.1.0"

/-- What the controller is for. -/
def about : String := "Keeps ingress objects in sync with Cloud Foundry Routes"

/-- The value that is attached to an option's letter, if one is. -/
def attachedValue? : List Char → Option String
  | [] => none
  | '=' :: value => some (String.ofList value)
  | value => some (String.ofList value)

/-- Take the words of a command line. An option without an attached value takes the next word if
that is an ordinary one. -/
def ofWordsWith (options : ControllerOptions) : List String → Except UsageError ControllerRequest
  | [] => .ok (.run options)
  | text :: rest =>
    match Word.ofText text with
    | .escape =>
      match rest with
      | [] => .ok (.run options)
      | text :: _ => .error (.unexpectedArgument text)
    | .ordinary text => .error (.unexpectedArgument text)
    | .long "help" none => .ok .help
    | .long "version" none => .ok .version
    | .long name value =>
      match ControllerOption.ofName? name, value with
      | some option, some value => (options.give option value).bind (ofWordsWith · rest)
      | some option, none => withNext option rest
      | none, value =>
        match name, value with
        | "help", some value | "version", some value =>
          .error (.unexpectedValue value ("--" ++ name))
        | _, _ => .error (.unexpectedArgument ("--" ++ name))
    | .letters letter attached =>
      match letter, attachedValue? attached with
      | 'h', _ => .ok .help
      | 'V', _ => .ok .version
      | 'c', some value => (options.give .configFile value).bind (ofWordsWith · rest)
      | 'c', none => withNext .configFile rest
      | _, _ => .error (.ofLetter letter)
where
  /-- Take the value of an option from the next word. -/
  withNext (option : ControllerOption) : List String → Except UsageError ControllerRequest
    | [] => .error (.missingValue option.place)
    | text :: rest =>
      match Word.ofText text with
      | .ordinary value => (options.give option value).bind (ofWordsWith · rest)
      | _ => .error (.missingValue option.place)

/-- What a command line asks for. -/
def ofWords (words : List String) : Except UsageError ControllerRequest :=
  ofWordsWith {} words

end ControllerRequest

end Ingress.CommandLine
