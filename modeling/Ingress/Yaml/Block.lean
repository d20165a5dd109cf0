import Ingress.Json.Compact

/-!
# Writing YAML

A document is written in block style: a line for every field and item, with what a line opens
indented below it. The items of a list stand below their dashes, at the column of the field that
holds the list. Empty collections stand on one line. A text is written without quotes where it
cannot be taken for anything else (`isPlain`).
-/

namespace Ingress.Yaml

/-- The plain texts that are not read as texts by everybody. -/
def reservedWords : List String :=
  ["null", "true", "false", "yes", "no", "on", "off", "y", "n"]

/-- Whether a character is a letter, a digit or a mark without meaning between letters. -/
def isPlainCharacter (c : Char) : Bool :=
  c.isAlphanum || [' ', '-', '_', '.', '/', ','].contains c

/-- Whether a text may be written without quotes. -/
def isPlain (text : String) : Bool :=
  text.toList.head?.any Char.isAlpha && text.toList.all isPlainCharacter &&
    text.toList.getLast? ≠ some ' ' && !reservedWords.contains text.toLower

/-- A text between single quotes; a quote in it is written twice. -/
def singleQuoted (text : String) : String :=
  "'" ++ String.ofList (text.toList.flatMap fun c => if c = '\'' then [c, c] else [c]) ++ "'"

/-- A text as a scalar. -/
def scalarText (text : String) : String :=
  if isPlain text then text
  else if text.toList.all (fun c => ' ' ≤ c && c ≤ '~') then singleQuoted text
  else Json.quoted text

/-- Whether a value takes lines of its own: a collection that is not empty. -/
def takesLines : Json → Bool
  | .array (_ :: _) | .object (_ :: _) => true
  | _ => false

/-- The lines below a field that holds a value: those of a record are indented. -/
def belowField (value : Json) (lines : List String) : List String :=
  match value with
  | .object _ => lines.map ("  " ++ ·)
  | _ => lines

/-- The lines of an item, with a dash before the first. -/
def withDash : List String → List String
  | [] => []
  | line :: rest => ("- " ++ line) :: rest.map ("  " ++ ·)

/-- The line of a field with the lines of what it holds. -/
def fieldWith (key : String) (value : Json) (lines : List String) : List String :=
  if takesLines value then (scalarText key ++ ":") :: belowField value lines
  else [scalarText key ++ ": " ++ String.join lines]

mutual

/-- The lines of a document. -/
def documentLines : Json → List String
  | .null => ["null"]
  | .bool value => [if value then "true" else "false"]
  | .integer value => [toString value]
  | .real text => [text]
  | .string value => [scalarText value]
  | .array [] => ["[]"]
  | .array items => itemLines items
  | .object [] => ["\x7b\x7d"]
  | .object fields => fieldLines fields

/-- The lines of items. -/
def itemLines : List Json → List String
  | [] => []
  | item :: rest => withDash (documentLines item) ++ itemLines rest

/-- The lines of fields. -/
def fieldLines : List (String × Json) → List String
  | [] => []
  | (key, value) :: rest => fieldWith key value (documentLines value) ++ fieldLines rest

end

/-- The text of a document. -/
def blockText (document : Json) : String :=
  String.join ((documentLines document).map (· ++ "\n"))

end Ingress.Yaml
