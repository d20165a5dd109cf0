import Ingress.Json.Quoted
import Ingress.Yaml.Document

/-!
# Reading typed values out of YAML documents

A text is read off any scalar, however it is written. Only a plain scalar can be null, a truth
value or a number, or a literal one that is tagged as such. A place where nothing is written holds
an empty record, map or list, unlike null, which holds none.

A record is a mapping, where fields stand under their names. Unknown keys are skipped, and a
repeated known key is refused.
-/

namespace Ingress.Yaml

/-- What a value of some type is read from. -/
abbrev Shape (α : Type) := Document → Node → Option α

/-- The full tag of a type of the core schema. -/
def coreTag (name : String) : Tag := Tag.ofText ("tag:yaml.org,2002:" ++ name)

/-- Whether a scalar's text is open to be read as a value of a type. -/
def isTyped (name : String) (p : NodeProperties) (style : ScalarStyle) : Bool :=
  style = .plain || (style = .literal && p.tag = some (coreTag name))

/-- Whether a plain text means that there is no value. -/
def isNull (text : String) : Bool :=
  text = "null" || text = "Null" || text = "NULL" || text = "~"

/-- Whether nothing was written in a place. -/
def isVacant (style : ScalarStyle) (text : String) : Bool :=
  style = .plain && text = ""

/-- A text. -/
def asText : Shape String := fun d node => do
  match ← d.resolve node with
  | .scalar _ _ text => return text
  | _ => none

/-- A text, or none where there is null or nothing. -/
def asOptionalText : Shape (Option String) := fun d node => do
  match ← d.resolve node with
  | .scalar p style text =>
    if style ≠ .plain then return some text
    match p.tag with
    | none => return if text = "" || isNull text then none else some text
    | some tag =>
      if tag ≠ coreTag "null" then return some text
      else if isNull text then return none
      else failure
  | _ => none

/-- The truth value that a text stands for. -/
def boolOfText? (text : String) : Option Bool :=
  if text = "true" || text = "True" || text = "TRUE" then some true
  else if text = "false" || text = "False" || text = "FALSE" then some false
  else none

/-- A truth value. -/
def asBool : Shape Bool := fun d node => do
  match ← d.resolve node with
  | .scalar p style text => if isTyped "bool" p style then boolOfText? text else none
  | _ => none

/-- The number that digits of a base stand for; there has to be a digit. -/
def digitsToNat? (base : Nat) (digits : List Char) : Option Nat :=
  if digits.isEmpty then none
  else digits.foldlM (fun n c => do
    let d ← Json.hexDigit? c
    if d < base then some (n * base + d) else none) 0

/-- The number that a text stands for, in decimal or, behind a mark for it, in another base. A
decimal number has no leading zero. -/
def natOfText? (text : String) : Option Nat :=
  let unsigned := match text.toList with
    | '+' :: rest => rest
    | all => all
  match unsigned with
  | '0' :: 'x' :: rest => digitsToNat? 16 rest
  | '0' :: 'o' :: rest => digitsToNat? 8 rest
  | '0' :: 'b' :: rest => digitsToNat? 2 rest
  | ['0'] => some 0
  | '0' :: _ => none
  | digits => digitsToNat? 10 digits

/-- A natural number below a limit. -/
def asNatBelow (limit : Nat) : Shape Nat := fun d node => do
  match ← d.resolve node with
  | .scalar p style text => do
    if !isTyped "int" p style then none
    let n ← natOfText? text
    if n < limit then return n else none
  | _ => none

/-- One of several named values: its name as a text, or as a local tag of nothing. A tag whose
bytes are no text is passed over. -/
def asChoice (choices : List (String × α)) : Shape α := fun d node => do
  match ← d.resolve node with
  | .scalar p style text =>
    match p.tag.bind Tag.localName? with
    | some name =>
      if isVacant style text || (style = .plain && isNull text) then choices.lookup name
      else none
    | none => choices.lookup text
  | _ => none

/-- A sequence. -/
def asList (item : Shape α) : Shape (List α) := fun d node => do
  match ← d.resolve node with
  | .sequence _ items => items.mapM (item d)
  | .scalar _ style text => if isVacant style text then return [] else none
  | _ => none

/-- A mapping with texts as its keys, in writing order. -/
def asEntries (value : Shape α) : Shape (List (String × α)) := fun d node => do
  match ← d.resolve node with
  | .mapping _ entries => entries.mapM fun (k, v) => return (← asText d k, ← value d v)
  | .scalar _ style text => if isVacant style text then return [] else none
  | _ => none

/-- The fields of a record. -/
structure Record where
  /-- The fields that were written, by name. -/
  fields : List (String × Node)

/-- View a node as a record with the given fields. -/
def asRecord (known : List String) : Shape Record := fun d node => do
  let fields ← asEntries (fun _ value => some value) d node
  let names := (fields.map (·.1)).filter known.contains
  if names.eraseDups.length ≠ names.length then none
  return { fields }

namespace Record

/-- A field that has to be there. -/
def required (r : Record) (d : Document) (name : String) (item : Shape α) : Option α := do
  item d (← r.fields.lookup name)

/-- A field with a value for when it is absent. -/
def defaulted (r : Record) (d : Document) (name : String) (default : α) (item : Shape α) :
    Option α :=
  match r.fields.lookup name with
  | some node => item d node
  | none => some default

/-- A text that may be null or absent. -/
def optionalText (r : Record) (d : Document) (name : String) : Option (Option String) :=
  r.defaulted d name none asOptionalText

end Record

end Ingress.Yaml
