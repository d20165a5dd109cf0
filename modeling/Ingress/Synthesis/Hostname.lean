import Std.Data.ExtTreeSet
import Ingress.Resource.Route

/-!
# The routes of a hostname

Routes are grouped by the hostname they serve, and hostnames are taken in ascending order.
Inside a group routes are put in the order in which they have to be matched: by descending
URL, so that of two paths where one begins with the other the longer one comes first, and by
ascending name where URLs are equal.
-/

namespace Ingress

/-- The hostnames that routes serve, ascending and without repetition. -/
def hostnames (routes : List Route) : List String :=
  (Std.ExtTreeSet.ofList (routes.map Route.fqdn)).toList

/-- The routes that serve a hostname, in the order given. -/
def routesOf (fqdn : String) (routes : List Route) : List Route :=
  routes.filter fun route => route.fqdn = fqdn

/-- Whether a route is matched before another, or could be. -/
def Route.matchesBefore (a b : Route) : Bool :=
  match compare b.fullUrl a.fullUrl with
  | .lt => true
  | .gt => false
  | .eq => (compare a.name b.name).isLE

/-- The routes in the order in which they have to be matched; ties keep their order. -/
def inMatchOrder (routes : List Route) : List Route :=
  routes.mergeSort Route.matchesBefore

end Ingress
