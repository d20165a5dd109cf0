import Ingress.Resource.HttpProxy
import Ingress.Resource.Service
import Ingress.Resource.VirtualService

/-!
# Managed objects

Of a managed object this program owns the labels, the annotations, the owners and what the
object asks for; of a service's specification it owns the selector and the ports. `conform`
overwrites just that in a live object and leaves the rest to the cluster.
-/

namespace Ingress

/-- A kind of objects that are kept in line with desired ones. -/
class Managed (K : Type) extends Resource K where
  /-- The live object with everything that this program owns taken from the desired one. -/
  conform : K → K → K

/-- The live metadata with labels, annotations and owners of the desired ones. -/
def Metadata.conform (live desired : Metadata) : Metadata :=
  { live with
    labels := desired.labels
    annotations := desired.annotations
    ownerReferences := desired.ownerReferences }

instance : Managed VirtualService where
  conform live desired :=
    { metadata := live.metadata.conform desired.metadata, spec := desired.spec }

instance : Managed HttpProxy where
  conform live desired :=
    { metadata := live.metadata.conform desired.metadata, spec := desired.spec }

instance : Managed Service where
  conform live desired :=
    { live with
      metadata := live.metadata.conform desired.metadata
      spec := some {
        live.spec.getD {} with
        selector := desired.spec.bind ServiceSpec.selector
        ports := desired.spec.bind ServiceSpec.ports } }

end Ingress
