import Ingress.Proofs.Resource.Metadata
import Ingress.Resource.HttpProxy

/-!
# Proxies that are read and written

A proxy is read back from its written form (`HttpProxy.readBack`): lists that are left out where
they are empty, also where the object around them is written, and parts that are left out where
there are none.
-/

namespace Ingress

open Json

namespace Header

/-- The entries of the written form. -/
def entries (header : Header) : List (String × Option Json) := [
  ("name", some (.string header.name)),
  ("value", some (.string header.value))]

theorem recovers (header : Header) : Header.shape.Recovers header.toJson header := by
  have hnodup : (header.entries.map Prod.fst).Nodup := by simp [entries]
  obtain ⟨hname, hvalue⟩ := forall_holds_written hnodup
  exact Shape.recovers_record "HeaderValue" hnodup (by simp [entries]) <|
    (Fields.recovers_required hname (Shape.recovers_text _)).map Header.mk
      |>.seq (Fields.recovers_required hvalue (Shape.recovers_text _))

end Header

namespace ProxyService

/-- The entries of the written form of the headers that are set. -/
def headersEntries (headers : List Header) : List (String × Option Json) := [
  ("set", if headers = [] then none else some (.ofList Header.toJson headers))]

theorem headersToJson_eq (headers : List Header) :
    headersToJson headers = .object (written (headersEntries headers)) :=
  ofFields_eq_written (by simp [headersEntries])

theorem recovers_headers (headers : List Header) :
    headersShape.Recovers (headersToJson headers) headers := by
  have hnodup : ((headersEntries headers).map Prod.fst).Nodup := by simp [headersEntries]
  have hset := holds_written hnodup List.mem_cons_self
  rw [headersToJson_eq]
  exact Shape.recovers_record "HeadersPolicy" hnodup (by simp [headersEntries])
    (Fields.recovers_unless hset id (Shape.recovers_list fun header _ => header.recovers))

/-- The entries of the written form. -/
def entries (service : ProxyService) : List (String × Option Json) := [
  ("name", some (.string service.name)),
  ("port", some (.integer service.port.toInt)),
  ("requestHeadersPolicy", service.requestHeaders.map headersToJson),
  ("weight", service.weight.map fun n => .integer n.toInt)]

theorem toJson_eq (service : ProxyService) : service.toJson = .object (written service.entries) :=
  ofFields_eq_written (by simp [entries])

theorem recovers (service : ProxyService) : ProxyService.shape.Recovers service.toJson service := by
  have hnodup : (service.entries.map Prod.fst).Nodup := by simp [entries]
  obtain ⟨hname, hport, hheaders, hweight⟩ := forall_holds_written hnodup
  rw [toJson_eq]
  exact Shape.recovers_record "ProxyService" hnodup (by simp [entries]) <|
    (Fields.recovers_required hname (Shape.recovers_text _)).map ProxyService.mk
      |>.seq (Fields.recovers_required hport (Shape.recovers_int32 _))
      |>.seq (Fields.recovers_optional hweight Shape.recovers_int64)
      |>.seq (Fields.recovers_optional hheaders recovers_headers)

end ProxyService

namespace ProxyRoute

theorem recovers_condition (path : String) :
    conditionShape.Recovers (conditionToJson path) path :=
  Shape.recovers_single "MatchCondition" "prefix" (Shape.recovers_text path)

/-- The entries of the written form. -/
def entries (route : ProxyRoute) : List (String × Option Json) := [
  ("conditions", if route.pathPrefixes = [] then none
    else some (.ofList conditionToJson route.pathPrefixes)),
  ("permitInsecure", route.permitInsecure.map .bool),
  ("services", some (.ofList ProxyService.toJson route.services))]

theorem toJson_eq (route : ProxyRoute) : route.toJson = .object (written route.entries) :=
  ofFields_eq_written (by simp [entries])

theorem recovers (route : ProxyRoute) : ProxyRoute.shape.Recovers route.toJson route := by
  have hnodup : (route.entries.map Prod.fst).Nodup := by simp [entries]
  obtain ⟨hconditions, hinsecure, hservices⟩ := forall_holds_written hnodup
  rw [toJson_eq]
  exact Shape.recovers_record "ProxyRoute" hnodup (by simp [entries]) <|
    (Fields.recovers_unless hconditions id
      (Shape.recovers_list fun path _ => recovers_condition path)).map ProxyRoute.mk
      |>.seq (Fields.recovers_required hservices
        (Shape.recovers_list fun service _ => service.recovers))
      |>.seq (Fields.recovers_optional hinsecure Shape.recovers_bool)

end ProxyRoute

namespace VirtualHost

/-- The entries of the written form. -/
def entries (host : VirtualHost) : List (String × Option Json) := [
  ("fqdn", some (.string host.fqdn)),
  ("tls", host.tlsSecretName.map fun secret => .object [("secretName", .string secret)])]

theorem toJson_eq (host : VirtualHost) : host.toJson = .object (written host.entries) :=
  ofFields_eq_written (by simp [entries])

theorem recovers (host : VirtualHost) : VirtualHost.shape.Recovers host.toJson host := by
  have hnodup : (host.entries.map Prod.fst).Nodup := by simp [entries]
  obtain ⟨hfqdn, htls⟩ := forall_holds_written hnodup
  rw [toJson_eq]
  exact Shape.recovers_record "VirtualHost" hnodup (by simp [entries]) <|
    (Fields.recovers_required hfqdn (Shape.recovers_text _)).map VirtualHost.mk
      |>.seq (Fields.recovers_optional htls fun secret =>
        Shape.recovers_single "Tls" "secretName" (Shape.recovers_text secret))

end VirtualHost

namespace HttpProxySpec

/-- The entries of the written form. -/
def entries (spec : HttpProxySpec) : List (String × Option Json) := [
  ("routes", if spec.routes = [] then none else some (.ofList ProxyRoute.toJson spec.routes)),
  ("virtualhost", spec.virtualHost.map VirtualHost.toJson)]

theorem toJson_eq (spec : HttpProxySpec) : spec.toJson = .object (written spec.entries) :=
  ofFields_eq_written (by simp [entries])

theorem recovers (spec : HttpProxySpec) : HttpProxySpec.shape.Recovers spec.toJson spec := by
  have hnodup : (spec.entries.map Prod.fst).Nodup := by simp [entries]
  obtain ⟨hroutes, hhost⟩ := forall_holds_written hnodup
  rw [toJson_eq]
  exact Shape.recovers_record "HttpProxySpec" hnodup (by simp [entries]) <|
    (Fields.recovers_optional hhost VirtualHost.recovers).map HttpProxySpec.mk
      |>.seq (Fields.recovers_unless hroutes id
        (Shape.recovers_list fun route _ => route.recovers))

end HttpProxySpec

namespace HttpProxy

theorem readBack {object : HttpProxy} (h : object.metadata.Dated) :
    Resource.ReadBack HttpProxy.shape object.toJson object :=
  Resource.readBack_envelope "HttpProxy" HttpProxy.mk h object.spec.recovers

theorem ensures_dated : HttpProxy.shape.Ensures fun object => object.metadata.Dated :=
  Resource.ensures_envelope (q := fun _ => True) "HttpProxy" (fun _ _ _ => trivial)
    fun _ _ hdated _ => hdated

end HttpProxy

end Ingress
