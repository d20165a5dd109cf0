import Ingress.CommandLine.Word
import Ingress.Crd.Kind

/-!
# The command line of the definition printer

The printer has one command, `print`, with the name of a kind. An option that does not exist and a
word too many are reported before a name that no kind goes by, but a request for help behind such
a name is not heard.
-/

namespace Ingress.CommandLine

/-- What the definition printer is asked for. -/
inductive DefinitionRequest where
  /-- A definition. -/
  | print (kind : Crd.Kind)
  /-- Help with the printer, or with its command. -/
  | help
  /-- Nothing at all. -/
  | nothing
  deriving DecidableEq, Repr

namespace DefinitionRequest

/-- What the printer is for. -/
def about : String := "Route controller command line interface for printing CRD's"

/-- How the name of a kind is called in errors. -/
def place : String := "<CRD>"

/-- The kind that goes by the name in the command's place. -/
def kindOfName : Option String → Except UsageError Crd.Kind
  | none => .error .missingArgument
  | some name =>
    match Crd.Kind.ofName? name with
    | some kind => .ok kind
    | none => .error (.ofValue name place)

/-- Help, unless a name is there that no kind goes by. -/
def helpBeside (name : Option String) : Except UsageError DefinitionRequest :=
  match name with
  | none => .ok .help
  | some name => (kindOfName (some name)).map fun _ => .help

/-- Take the words of `print` after the name that has been read, if any. -/
def ofPrintWords (optionsEnded : Bool) (name : Option String) :
    List String → Except UsageError DefinitionRequest
  | [] => (kindOfName name).map .print
  | text :: rest =>
    match optionsEnded, Word.ofText text with
    | false, .escape => ofPrintWords true name rest
    | false, .long "help" none => helpBeside name
    | false, .long "help" (some value) => .error (.unexpectedValue value "--help")
    | false, .long option _ => .error (.unexpectedArgument ("--" ++ option))
    | false, .letters letter _ => if letter = 'h' then helpBeside name else .error (.ofLetter letter)
    | _, _ =>
      match name with
      | none => ofPrintWords optionsEnded (some text) rest
      | some _ => .error (.unexpectedArgument text)

/-- Take the words after `help`: nothing, or commands to be helped with. -/
def ofHelpWords : List String → Except UsageError DefinitionRequest
  | [] | ["print"] | ["help"] => .ok .help
  | "print" :: text :: _ | "help" :: text :: _ | text :: _ => .error (.unrecognizedCommand text)

/-- Take a word where no options are expected any more. -/
def ofWordsAfterEscape : List String → Except UsageError DefinitionRequest
  | [] => .ok .nothing
  | text :: _ =>
    if text = "print" ∨ text = "help" then .error (.unexpectedArgument text)
    else .error (.unrecognizedCommand text)

/-- What a command line asks for. -/
def ofWords : List String → Except UsageError DefinitionRequest
  | [] => .ok .nothing
  | "print" :: rest => ofPrintWords false none rest
  | "help" :: rest => ofHelpWords rest
  | text :: rest =>
    match Word.ofText text with
    | .escape => ofWordsAfterEscape rest
    | .long "help" none => .ok .help
    | .long "help" (some value) => .error (.unexpectedValue value "--help")
    | .long option _ => .error (.unexpectedArgument ("--" ++ option))
    | .letters letter _ => if letter = 'h' then .ok .help else .error (.ofLetter letter)
    | .ordinary text => .error (.unrecognizedCommand text)

end DefinitionRequest

end Ingress.CommandLine
