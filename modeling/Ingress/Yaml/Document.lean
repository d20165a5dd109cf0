import Ingress.Yaml.Node

/-!
# YAML documents

A text that holds one document: directives, if any, the mark before it, which only directives
make necessary, its root, and the mark after it, any number of times. A text with no document or
with several is refused.
-/

namespace Ingress.Yaml

/-- A document. -/
structure Document where
  /-- Its root. -/
  root : Node

/-- What directives say. -/
structure Directives where
  /-- Whether a version was named. -/
  versioned : Bool := false
  /-- The handles that were given. -/
  handles : TagHandles := []

/-- The handles that are known in every document unless they are given anew. -/
def defaultHandles : TagHandles := [("!", Tag.ofText "!"), ("!!", Tag.ofText "tag:yaml.org,2002:")]

/-- Whether a text in some version of YAML can be read. -/
def isReadable (major minor : Nat) : Bool :=
  major = 1 && (minor = 1 || minor = 2)

/-- The directives at the front of a list of tokens, and the rest. None may be repeated. -/
def readDirectives : Directives → List Token → Option (Directives × List Token)
  | d, .version major minor :: rest =>
    if d.versioned || !isReadable major minor then none
    else readDirectives { d with versioned := true } rest
  | d, .tagHandle handle beginning :: rest =>
    if (d.handles.lookup handle).isSome then none
    else readDirectives { d with handles := (handle, beginning) :: d.handles } rest
  | d, rest => some (d, rest)

/-- Whether a token begins or ends a document, so that nothing of one stands before it. -/
def Token.isOutside : Token → Bool
  | .version .. | .tagHandle .. | .documentStart | .documentEnd => true
  | _ => false

namespace Document

/-- The root behind the mark before a document, and the rest. -/
def readRoot (handles : TagHandles) (tokens : List Token) : Option (Node × List Token) :=
  if tokens.head?.all Token.isOutside then some (.empty, tokens)
  else (Node.ofTokens? handles { tokens }).map fun (root, unread) => (root, unread.tokens)

/-- The document that a list of tokens holds. -/
def ofTokens? (tokens : List Token) : Option Document := do
  let first ← tokens.head?
  let (root, rest) ←
    if !(first.isOutside && first ≠ .documentEnd) then
      (Node.ofTokens? defaultHandles { tokens }).map fun (root, unread) => (root, unread.tokens)
    else do
      let (directives, rest) ← readDirectives {} tokens
      if rest.head? ≠ some .documentStart then none
      readRoot (directives.handles ++ defaultHandles) rest.tail
  if rest.all (· = .documentEnd) then return { root } else none

/-- The document that a text holds. -/
def ofText? (text : String) : Option Document := do
  ofTokens? (← Token.ofText? text)

/-- The node that an alias stands for: of those with its number the one written last. -/
def resolve (d : Document) : Node → Option Node
  | .alias number => d.root.anchored.reverse.lookup number
  | node => some node

end Document

end Ingress.Yaml
