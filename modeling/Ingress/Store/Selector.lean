import Ingress.Resource.Labels
import Ingress.Text.Split

/-!
# Label selectors

A selector is a list of terms between commas, all of which have to hold: `key=value` asks for a
label with that value, a bare `key` for the label with any value. Nothing is trimmed, and empty
terms ask for nothing.
-/

namespace Ingress

/-- A condition on labels. -/
inductive SelectorTerm where
  /-- The label has the value. -/
  | equals (key value : String)
  /-- The label is there. -/
  | present (key : String)
  deriving DecidableEq

namespace SelectorTerm

/-- The condition that a term states. -/
def ofText (term : List Char) : SelectorTerm :=
  match Text.cutAt? '=' term with
  | some (key, value) => .equals (String.ofList key) (String.ofList value)
  | none => .present (String.ofList term)

/-- Whether labels meet the condition. -/
def holds (labels : Labels) : SelectorTerm → Bool
  | .equals key value => labels[key]? = some value
  | .present key => labels.contains key

end SelectorTerm

/-- The conditions that a selector states. -/
def selectorTerms (selector : String) : List SelectorTerm :=
  ((Text.split ',' selector.toList).filter (· ≠ [])).map SelectorTerm.ofText

/-- Whether a selector picks an object with the given labels. -/
def selects (selector : String) (labels : Labels) : Bool :=
  (selectorTerms selector).all (SelectorTerm.holds labels)

end Ingress
