import Ingress.Json.Value

/-!
# Writing JSON text

A document is written without any blank, its fields and items in order. In strings only quotes,
backslashes and control characters are escaped.
-/

namespace Ingress.Json

/-- A hexadecimal digit for a number below sixteen. -/
def hexCharacter (n : Nat) : Char :=
  if n < 10 then Char.ofNat ('0'.toNat + n) else Char.ofNat ('a'.toNat + (n - 10))

/-- How a character stands in a string: quote, backslash and control characters escaped. -/
def escaped (c : Char) : String :=
  match c with
  | '"' => "\\\""
  | '\\' => "\\\\"
  | '\x08' => "\\b"
  | '\x0c' => "\\f"
  | '\n' => "\\n"
  | '\r' => "\\r"
  | '\t' => "\\t"
  | c =>
    if c < ' ' then
      String.ofList ['\\', 'u', '0', '0', hexCharacter (c.toNat / 16), hexCharacter (c.toNat % 16)]
    else c.toString

/-- A string with its quotes. -/
def quoted (text : String) : String :=
  text.foldl (fun out c => out ++ escaped c) "\"" ++ "\""

mutual

/-- The tokens of a document, in front of others. -/
def tokens : Json → List String → List String
  | .null, rest => "null" :: rest
  | .bool true, rest => "true" :: rest
  | .bool false, rest => "false" :: rest
  | .integer value, rest => toString value :: rest
  | .real text, rest => text :: rest
  | .string value, rest => quoted value :: rest
  | .array items, rest => "[" :: itemTokens items ("]" :: rest)
  | .object fields, rest => "\x7b" :: fieldTokens fields ("\x7d" :: rest)

/-- The tokens of items with commas between them, in front of others. -/
def itemTokens : List Json → List String → List String
  | [], rest => rest
  | [item], rest => tokens item rest
  | item :: more, rest => tokens item ("," :: itemTokens more rest)

/-- The tokens of fields with commas between them, in front of others. -/
def fieldTokens : List (String × Json) → List String → List String
  | [], rest => rest
  | [(key, value)], rest => quoted key :: ":" :: tokens value rest
  | (key, value) :: more, rest =>
    quoted key :: ":" :: tokens value ("," :: fieldTokens more rest)

end

/-- The document's text without any blank. -/
def compact (document : Json) : String :=
  String.join (document.tokens [])

end Ingress.Json
