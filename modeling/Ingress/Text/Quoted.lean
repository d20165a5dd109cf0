import Ingress.Text.Printable

/-!
# Quoted texts

A text in quotes for a reader who has to see what is in it: quotes and backslashes are
escaped, and so is every character that would not show, either by a letter or by its code
point in braces.
-/

namespace Ingress.Text

/-- The digits of a number in base sixteen, without leading zeros. -/
def hexText (n : Nat) : String :=
  String.ofList (Nat.toDigits 16 n)

/-- How a character stands between quotes. -/
def quotedChar (c : Char) : String :=
  match c with
  | '\x00' => "\\0"
  | '\t' => "\\t"
  | '\r' => "\\r"
  | '\n' => "\\n"
  | '\\' => "\\\\"
  | '"' => "\\\""
  | c =>
    if isCombining c || isFiller c || !isPrintable c then "\\u\x7b" ++ hexText c.toNat ++ "\x7d"
    else c.toString

/-- A text between quotes. -/
def quoted (text : String) : String :=
  text.foldl (fun out c => out ++ quotedChar c) "\"" ++ "\""

end Ingress.Text
