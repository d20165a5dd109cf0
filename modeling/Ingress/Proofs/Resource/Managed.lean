import Ingress.Pass.Managed

/-!
# Laws of managed objects

Reading metadata undoes writing it, and bringing a live object in line with a desired one
settles exactly the parts that this program owns: labels, annotations, owners and what the
object asks for. `Managed.Agrees` says of two objects that they do not differ there, and the
law `conform_eq_self_iff` says that an object in line is one that agrees.
-/

namespace Ingress

/-- A live object agrees with a desired one where this program owns it. -/
class ManagedView (K : Type) [Managed K] where
  /-- The live object asks for what the desired one asks for. -/
  AsksSame : K → K → Prop

/-- The live object differs from the desired one in nothing that this program owns. -/
structure Managed.Agrees [Managed K] [ManagedView K] (live desired : K) : Prop where
  /-- The labels are the desired ones. -/
  labels : (Resource.metadata live).labels = (Resource.metadata desired).labels
  /-- The annotations are the desired ones. -/
  annotations : (Resource.metadata live).annotations = (Resource.metadata desired).annotations
  /-- The owners are the desired ones. -/
  owners : (Resource.metadata live).ownerReferences = (Resource.metadata desired).ownerReferences
  /-- What the object asks for is what is desired. -/
  asks : ManagedView.AsksSame live desired

/-- A kind of objects whose metadata can be written and whose owned parts can be settled. -/
class LawfulManaged (K : Type) [Managed K] [ManagedView K] : Prop where
  /-- Metadata read after it was written is what was written. -/
  metadata_withMetadata (object : K) (metadata : Metadata) :
    Resource.metadata (Resource.withMetadata object metadata) = metadata
  /-- The metadata written last counts. -/
  withMetadata_withMetadata (object : K) (first second : Metadata) :
    Resource.withMetadata (Resource.withMetadata object first) second =
      Resource.withMetadata object second
  /-- Bringing an object in line brings its metadata in line. -/
  metadata_conform (live desired : K) :
    Resource.metadata (Managed.conform live desired) =
      (Resource.metadata live).conform (Resource.metadata desired)
  /-- Metadata apart, an object brought in line does not depend on the metadata it had. -/
  conform_withMetadata (live desired : K) (metadata : Metadata) :
    Managed.conform (Resource.withMetadata live metadata) desired =
      Resource.withMetadata (Managed.conform live desired)
        (metadata.conform (Resource.metadata desired))
  /-- An object once in line stays as it is. -/
  conform_conform (live desired : K) :
    Managed.conform (Managed.conform live desired) desired = Managed.conform live desired
  /-- The objects that bringing in line leaves alone are those that agree. -/
  conform_eq_self_iff (live desired : K) :
    Managed.conform live desired = live ↔ Managed.Agrees live desired

/-- Metadata is as desired exactly where labels, annotations and owners are. -/
theorem Metadata.conform_eq_self_iff (live desired : Metadata) :
    live.conform desired = live ↔ live.labels = desired.labels ∧
      live.annotations = desired.annotations ∧
      live.ownerReferences = desired.ownerReferences := by
  cases live
  simp only [Metadata.conform, Metadata.mk.injEq, true_and]
  grind

/-- Two objects agree when bringing the metadata in line changes nothing and both ask for the
same. -/
theorem Managed.agrees_iff {K : Type} [Managed K] [ManagedView K] {live desired : K} :
    Managed.Agrees live desired ↔
      (Resource.metadata live).conform (Resource.metadata desired) = Resource.metadata live ∧
        ManagedView.AsksSame live desired := by
  rw [Metadata.conform_eq_self_iff]
  constructor
  · intro h
    exact ⟨⟨h.labels, h.annotations, h.owners⟩, h.asks⟩
  · rintro ⟨⟨hlabels, hannotations, howners⟩, hasks⟩
    exact ⟨hlabels, hannotations, howners, hasks⟩

/-- Objects that agree carry the same annotations. -/
theorem Managed.Agrees.annotation?_eq {K : Type} [Managed K] [ManagedView K] {live desired : K}
    (h : Managed.Agrees live desired) (key : String) :
    Resource.annotation? live key = Resource.annotation? desired key := by
  unfold Resource.annotation?
  rw [h.annotations]

instance : ManagedView VirtualService where
  AsksSame live desired := live.spec = desired.spec

instance : LawfulManaged VirtualService where
  metadata_withMetadata _ _ := rfl
  withMetadata_withMetadata _ _ _ := rfl
  metadata_conform _ _ := rfl
  conform_withMetadata _ _ _ := rfl
  conform_conform _ _ := rfl
  conform_eq_self_iff live desired := by
    rw [Managed.agrees_iff]
    cases live
    exact (VirtualService.mk.injEq ..).to_iff.trans (and_congr_right' eq_comm)

instance : ManagedView HttpProxy where
  AsksSame live desired := live.spec = desired.spec

instance : LawfulManaged HttpProxy where
  metadata_withMetadata _ _ := rfl
  withMetadata_withMetadata _ _ _ := rfl
  metadata_conform _ _ := rfl
  conform_withMetadata _ _ _ := rfl
  conform_conform _ _ := rfl
  conform_eq_self_iff live desired := by
    rw [Managed.agrees_iff]
    cases live
    exact (HttpProxy.mk.injEq ..).to_iff.trans (and_congr_right' eq_comm)

/-- Of what a service asks for, this program owns the selector and the ports. -/
instance : ManagedView Service where
  AsksSame live desired := ∃ spec, live.spec = some spec ∧
    spec.selector = desired.spec.bind ServiceSpec.selector ∧
    spec.ports = desired.spec.bind ServiceSpec.ports

/-- A specification keeps its value when selector and ports are written exactly where it is
there and has them already. -/
theorem ServiceSpec.eq_some_iff (spec : Option ServiceSpec) (selector : Option Labels)
    (ports : Option (List ServicePort)) :
    some { spec.getD {} with selector, ports } = spec ↔
      ∃ s, spec = some s ∧ s.selector = selector ∧ s.ports = ports := by
  cases spec with
  | none => simp
  | some s =>
    cases s
    simp only [Option.getD_some, Option.some.injEq, ServiceSpec.mk.injEq]
    grind

instance : LawfulManaged Service where
  metadata_withMetadata _ _ := rfl
  withMetadata_withMetadata _ _ _ := rfl
  metadata_conform _ _ := rfl
  conform_withMetadata _ _ _ := rfl
  conform_conform _ _ := rfl
  conform_eq_self_iff live desired := by
    rw [Managed.agrees_iff]
    cases live
    refine (Service.mk.injEq ..).to_iff.trans (and_congr_right' ?_)
    exact (and_iff_left rfl).trans (ServiceSpec.eq_some_iff ..)

end Ingress
