import Ingress.Proofs.Resource.HttpProxy
import Ingress.Proofs.Resource.Route
import Ingress.Proofs.Resource.VirtualService

/-!
# Reading undoes writing

Routes, virtual services and proxies are read back from their written form, as a document and as a
text (`Resource.written_is_read_back`). So different objects are written differently, and what is
written of an object that was read is read and written the same again.
-/

namespace Ingress

open Json

namespace Resource

section Codec

variable {K : Type} [Resource K]

/-- The text of an object. -/
def encode (object : K) : String :=
  (toJson object).compact

variable (K)

/-- The object that a text holds. -/
def decode (text : String) : Except Fault K :=
  shape.ofText text

/-- What is written of the object that a text holds. -/
def recode (text : String) : Except Fault String :=
  (decode K text).map encode

/-- The objects of a kind are read back from their written form. -/
structure RoundTrips : Prop where
  /-- An object is made of its document. -/
  ofJson_toJson : ∀ object : K, (metadata object).Dated →
    shape.ofJson (toJson object) = .ok object
  /-- An object is made of its text. -/
  decode_encode : ∀ object : K, (metadata object).Dated → decode K (encode object) = .ok object
  /-- Different objects have different texts. -/
  encode_injective : ∀ first second : K, (metadata first).Dated → (metadata second).Dated →
    encode first = encode second → first = second
  /-- What is written of an object that was read is written the same again. -/
  recode_recoded : ∀ text written, recode K text = .ok written → recode K written = .ok written

variable {K}

/-- A kind of which dated objects are read back, and of which others are not read. -/
theorem RoundTrips.of
    (hback : ∀ object : K, (metadata object).Dated → ReadBack shape (toJson object) object)
    (hdated : (shape : Shape K).Ensures fun object => (metadata object).Dated) : RoundTrips K where
  ofJson_toJson object h := (hback object h).ofJson_eq
  decode_encode object h := (hback object h).ofText_eq
  encode_injective first second hfirst hsecond heq := by
    have hread : decode K (encode first) = .ok first := (hback first hfirst).ofText_eq
    have hread' : decode K (encode second) = .ok second := (hback second hsecond).ofText_eq
    rw [heq, hread'] at hread
    exact (Except.ok.inj hread).symm
  recode_recoded text written h := by
    unfold recode at h ⊢
    cases hread : decode K text with
    | error e =>
      rw [hread] at h
      cases h
    | ok object =>
      rw [hread] at h
      cases h
      have hagain : decode K (encode object) = .ok object :=
        (hback object (hdated.of_ofText hread)).ofText_eq
      rw [hagain]
      rfl

end Codec

/-- Routes, virtual services and proxies are read back from their written form. -/
theorem written_is_read_back :
    RoundTrips Route ∧ RoundTrips VirtualService ∧ RoundTrips HttpProxy :=
  ⟨.of (fun _ => Route.readBack) Route.ensures_dated,
    .of (fun _ => VirtualService.readBack) VirtualService.ensures_dated,
    .of (fun _ => HttpProxy.readBack) HttpProxy.ensures_dated⟩

/-- Metadata of an object that was created on a leap day. -/
def leapDayMetadata : Metadata where
  name := some "a"
  labels := some ∅
  finalizers := some []
  creationTimestamp := some ⟨2024, 2, 29, 23, 59, 58⟩

theorem dated_leapDayMetadata : leapDayMetadata.Dated where
  creation := by
    rintro _ ⟨⟩
    exact ⟨by decide, by decide, by decide, by decide, by decide, by decide⟩
  deletion := nofun

/-- A route without a path, to a destination without a port. -/
def portlessRoute : Route where
  metadata := leapDayMetadata
  host := "\"a\"\n"
  domain := { name := "example.com" }
  destinations := [{ guid := "d", appGuid := "app", processType := "web" }]

/-- A virtual service that touches headers without setting any. -/
def idleHeadersService : VirtualService where
  metadata := leapDayMetadata
  spec := {
    hosts := []
    rules := [{
      destinations := [
        { host := "s-d", weight := some (-1), headers := some { request := some {} } },
        { host := "s-e", headers := some {} }] }] }

/-- A proxy without a virtual host that touches headers without setting any. -/
def hostlessProxy : HttpProxy where
  metadata := leapDayMetadata
  spec := { routes := [{ services := [{ name := "s-d", port := 80, requestHeaders := some [] }] }] }

theorem sparse_objects_are_read_back :
    decode Route (encode portlessRoute) = .ok portlessRoute ∧
      decode VirtualService (encode idleHeadersService) = .ok idleHeadersService ∧
      decode HttpProxy (encode hostlessProxy) = .ok hostlessProxy :=
  ⟨written_is_read_back.1.decode_encode portlessRoute dated_leapDayMetadata,
    written_is_read_back.2.1.decode_encode idleHeadersService dated_leapDayMetadata,
    written_is_read_back.2.2.decode_encode hostlessProxy dated_leapDayMetadata⟩

end Resource

end Ingress
