import Ingress.Json.Compact

/-!
# Form encoding

A text as it stands in the query of an address: letters, digits and four marks stand for
themselves, a space is a plus sign, and every other byte is a percent sign and two digits.
-/

namespace Ingress.Remote

/-- Whether a byte stands for itself. -/
def isFormByte (b : UInt8) : Bool :=
  let c := Char.ofNat b.toNat
  b < 128 && (c.isAlphanum || c = '*' || c = '-' || c = '.' || c = '_')

/-- How a byte stands in a query. -/
def formByte (b : UInt8) : List Char :=
  if isFormByte b then [Char.ofNat b.toNat]
  else if b = 0x20 then ['+']
  else
    ['%', (Json.hexCharacter (b.toNat / 16)).toUpper, (Json.hexCharacter (b.toNat % 16)).toUpper]

/-- How a text stands in a query. -/
def formEncoded (text : String) : List Char :=
  text.toUTF8.toList.flatMap formByte

/-- A parameter in a query, behind the mark that separates parameters. -/
def formParameter (name value : String) : List Char :=
  '&' :: formEncoded name ++ '=' :: formEncoded value

end Ingress.Remote
