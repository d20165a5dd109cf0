import Ingress.Text.Split

/-!
# Words of a command line

A word that begins with dashes names options: behind two dashes one option by its long name, with
or without a value behind an equals sign, and behind one dash options by their letters. Two dashes
alone say that no options follow. One dash alone is an ordinary word.

`UsageError` says what is wrong with a command line.
-/

namespace Ingress.CommandLine

/-- A word of a command line. -/
inductive Word where
  /-- Two dashes alone. -/
  | escape
  /-- An option by its long name, with a value if one is attached. -/
  | long (name : String) (value : Option String)
  /-- Options by their letters. -/
  | letters (first : Char) (rest : List Char)
  /-- Any other word. -/
  | ordinary (text : String)
  deriving DecidableEq, Repr

/-- What a word is. -/
def Word.ofText (text : String) : Word :=
  match text.toList with
  | ['-', '-'] => .escape
  | '-' :: '-' :: named =>
    match Text.cutAt? '=' named with
    | some (name, value) => .long (String.ofList name) (some (String.ofList value))
    | none => .long (String.ofList named) none
  | '-' :: first :: rest => .letters first rest
  | _ => .ordinary text

/-- What is wrong with a command line. -/
inductive UsageError where
  /-- A word that nothing expects. -/
  | unexpectedArgument (text : String)
  /-- A command that does not exist. -/
  | unrecognizedCommand (text : String)
  /-- A value that is none of those that its place allows. -/
  | invalidValue (value place : String)
  /-- A value for an option that takes none. -/
  | unexpectedValue (value option : String)
  /-- No value, where there has to be one. -/
  | missingValue (place : String)
  /-- An argument is missing that has to be there. -/
  | missingArgument
  /-- An option that may be there once is there twice. -/
  | repeatedOption (option : String)
  deriving DecidableEq, Repr

/-- The wording of an error. -/
def UsageError.message : UsageError → String
  | .unexpectedArgument text => "error: unexpected argument '" ++ text ++ "' found"
  | .unrecognizedCommand text => "error: unrecognized subcommand '" ++ text ++ "'"
  | .invalidValue value place => "error: invalid value '" ++ value ++ "' for '" ++ place ++ "'"
  | .unexpectedValue value option =>
    "error: unexpected value '" ++ value ++ "' for '" ++ option ++
      "' found; no more were expected"
  | .missingValue place =>
    "error: a value is required for '" ++ place ++ "' but none was supplied"
  | .missingArgument => "error: the following required arguments were not provided:"
  | .repeatedOption option =>
    "error: the argument '" ++ option ++ "' cannot be used multiple times"

/-- The error of a value that its place does not allow: an empty one counts as none. -/
def UsageError.ofValue (value place : String) : UsageError :=
  if value = "" then .missingValue place else .invalidValue value place

/-- The error of an option that does not exist. -/
def UsageError.ofLetter (letter : Char) : UsageError :=
  .unexpectedArgument (String.ofList ['-', letter])

end Ingress.CommandLine
