/-!
# Addresses on a server

What a request asks a server for: a path and, behind a question mark, a query. Behind a number
sign nothing counts. Some characters may not stand in an address at all, and its length is limited.
-/

namespace Ingress.Remote

/-- What a request asks a server for. -/
structure Address where
  /-- The path. -/
  path : String
  /-- The query, nothing where there is none. -/
  query : String := ""
  deriving DecidableEq, Repr

/-- Whether a character may stand in a path, or be the mark that ends it. -/
def isPathCharacter (c : Char) : Bool :=
  let n := c.toNat
  n = 0x21 || c = '"' || (0x24 ≤ n && n ≤ 0x3B) || n = 0x3D || (0x40 ≤ n && n ≤ 0x5F) ||
    (0x61 ≤ n && n ≤ 0x7E) || 0x80 ≤ n

/-- Whether a character may stand in a query. -/
def isQueryCharacter (c : Char) : Bool :=
  let n := c.toNat
  n = 0x21 || (0x24 ≤ n && n ≤ 0x3B) || n = 0x3D || (0x3F ≤ n && n ≠ 0x7F)

/-- How many bytes an address may take. -/
def maxAddressBytes : Nat := 65534

namespace Address

/-- The part of a text before a number sign. -/
def beforeFragment (text : List Char) : List Char :=
  text.takeWhile (· ≠ '#')

/-- The address that a text spells, if it is short enough and all its characters may stand in
it. -/
def ofText? (text : List Char) : Option Address :=
  let path := text.takeWhile fun c => c ≠ '?' && c ≠ '#'
  let query := match text.drop path.length with
    | '?' :: rest => beforeFragment rest
    | _ => []
  let fits := (text.map Char.utf8Size).foldr (· + ·) 0 ≤ maxAddressBytes
  if fits && path.all isPathCharacter && query.all isQueryCharacter then
    some { path := String.ofList path, query := String.ofList query }
  else none

end Address

end Ingress.Remote
