import Ingress.Sha256
import Ingress.Resource.Route

/-!
# Names, labels and owners of synthesized objects

Every object that is synthesized carries the label that says who manages it, whatever its
template says, and references to the routes it was made from. An ingress object is named by
the digest of its hostname, since a hostname may be longer than a name allows and may hold
characters that a name does not.
-/

namespace Ingress

/-- The label that says who manages an object. -/
def managedByLabel : String := "app.kubernetes.io/managed-by"

/-- Who manages the objects of this program. -/
def manager : String := "routecontroller"

/-- The annotation that holds the hostname of an ingress object. -/
def fqdnKey : String := "cloudfoundry.org/fqdn"

/-- The annotation that holds the hostname of a service's route. -/
def routeFqdnKey : String := "cloudfoundry.org/route-fqdn"

/-- The label that holds the application of a service. -/
def appGuidLabel : String := "cloudfoundry.org/app_guid"

/-- The label that holds the process type of a service. -/
def processTypeLabel : String := "cloudfoundry.org/process_type"

/-- The label that holds the route of a service. -/
def routeGuidLabel : String := "cloudfoundry.org/route_guid"

/-- The label of a route that holds its space. -/
def spaceGuidLabel : String := "cloudfoundry.org/space_guid"

/-- The label of a route that holds its organization. -/
def orgGuidLabel : String := "cloudfoundry.org/org_guid"

/-- The selector that picks the objects of this program. -/
def managedSelector : String := managedByLabel ++ "=" ++ manager

/-- The template's labels with the manager's label on top. -/
def managedLabels (template : Labels) : Labels :=
  template.insert managedByLabel manager

/-- The name of the ingress object of a hostname: a stem and the digest of the hostname. -/
def ingressName (stem fqdn : String) : String :=
  stem ++ Sha256.hexOfText fqdn

/-- The reference to a route as the owner of an object. -/
def Route.ownerReference (route : Route) : OwnerReference where
  apiVersion := Route.apiVersion
  kind := Route.kind
  name := route.name
  uid := route.metadata.uid.getD ""

end Ingress
