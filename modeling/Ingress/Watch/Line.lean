import Ingress.Remote.Exchange
import Ingress.Resource.Route
import Ingress.Text.Split

/-!
# Lines of a watch

The reply to a watch request is a stream of lines, each of which holds a notice: a route that has
been added, modified or deleted, a version that the collection has reached, or an error. A line
that ends before its notice does is passed over.
-/

namespace Ingress

/-- A notice in a watch. -/
inductive WatchNotice where
  /-- A route is there or has changed. -/
  | applied (route : Route)
  /-- A route is gone. -/
  | deleted (route : Route)
  /-- The collection has reached a version. -/
  | bookmark (version : String)
  /-- Something is wrong with the watch. -/
  | error (status : ApiStatus)

/-- What a line of a watch holds. -/
inductive WatchLine where
  /-- A notice. -/
  | notice (notice : WatchNotice)
  /-- Nothing that can be read. -/
  | unreadable
  /-- Less than a notice. -/
  | incomplete

namespace WatchLine

/-- The shape of the version in a bookmark's metadata. -/
def bookmarkMetadataShape : Json.Shape String := .record "BookmarkMeta" <|
  (fun version _ => version) <$> .required "resourceVersion" .text <*>
    .defaulted "annotations" ∅ Labels.shape

/-- The shape of a bookmark, which also has to say of which kind of objects it is. -/
def bookmarkShape : Json.Shape String :=
  (Json.Shape.embedding (.required "metadata" bookmarkMetadataShape)
    (Prod.mk <$> .required "apiVersion" .text <*> .required "kind" .text)).map (·.1)

/-- What a notice of each type is about. -/
def noticeShapes : List (String × Json.Shape WatchNotice) := [
  ("ADDED", Route.shape.map .applied),
  ("MODIFIED", Route.shape.map .applied),
  ("DELETED", Route.shape.map .deleted),
  ("BOOKMARK", bookmarkShape.map .bookmark),
  ("ERROR", Remote.refusalShape.map .error)]

/-- The shape of a notice. -/
def noticeShape : Json.Shape WatchNotice :=
  .tagged "WatchEvent" "type" "object" noticeShapes

/-- What a line holds. -/
def ofText (line : String) : WatchLine :=
  match noticeShape.ofText line with
  | .ok found => .notice found
  | .error .truncated => .incomplete
  | .error _ => .unreadable

end WatchLine

/-- A line without a carriage return at its end. -/
def withoutReturn (line : List Char) : List Char :=
  if line.getLast? = some '\r' then line.dropLast else line

/-- The lines of a text, of which the last may be without an end. -/
def streamLines (text : String) : List String :=
  let pieces := (Text.split '\n' text.toList).map withoutReturn
  let ended := match pieces.getLast? with
    | some [] => pieces.dropLast
    | _ => pieces
  ended.map String.ofList

end Ingress
