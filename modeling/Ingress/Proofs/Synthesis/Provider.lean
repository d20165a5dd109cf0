import Ingress.Config
import Ingress.Proofs.Synthesis.Synthesizer

/-!
# The two providers

A configuration chooses between virtual services and proxies. `Config.synthesizer` is the
synthesizer of the provider that is chosen, so a statement about it holds for both renderers
with all their settings; both write the metadata they are given, and objects that agree with
themselves.
-/

namespace Ingress

/-- The ingress objects of a provider. -/
abbrev Provider.Object : Provider → Type
  | .istio => VirtualService
  | .contour => HttpProxy

instance : (provider : Provider) → Managed provider.Object
  | .istio => inferInstanceAs (Managed VirtualService)
  | .contour => inferInstanceAs (Managed HttpProxy)

instance : (provider : Provider) → DecidableEq provider.Object
  | .istio => inferInstanceAs (DecidableEq VirtualService)
  | .contour => inferInstanceAs (DecidableEq HttpProxy)

instance : (provider : Provider) → ManagedView provider.Object
  | .istio => inferInstanceAs (ManagedView VirtualService)
  | .contour => inferInstanceAs (ManagedView HttpProxy)

instance : (provider : Provider) → LawfulManaged provider.Object
  | .istio => inferInstanceAs (LawfulManaged VirtualService)
  | .contour => inferInstanceAs (LawfulManaged HttpProxy)

namespace Config

/-- The renderer of a provider with its settings. -/
def rendererFor (config : Config) : (provider : Provider) → Renderer provider.Object
  | .istio => VirtualService.renderer config.gateways
  | .contour => HttpProxy.renderer config.tlsSecretName config.httpsOnly

/-- The synthesizer of the chosen provider. -/
def synthesizer (config : Config) : Synthesizer config.provider.Object where
  renderer := config.rendererFor config.provider
  labels := config.labels

/-- Both renderers are lawful, whatever their settings. -/
theorem lawful_rendererFor (config : Config) (provider : Provider) :
    (config.rendererFor provider).Lawful := by
  cases provider with
  | istio => exact ⟨fun _ _ => rfl, fun _ _ => ⟨rfl, rfl, rfl, rfl⟩⟩
  | contour => exact ⟨fun _ _ => rfl, fun _ _ => ⟨rfl, rfl, rfl, rfl⟩⟩

theorem lawful_synthesizer (config : Config) : config.synthesizer.renderer.Lawful :=
  config.lawful_rendererFor config.provider

end Config

end Ingress
