import Ingress.Proofs.Json.Ensures
import Ingress.Proofs.Json.Recovery
import Ingress.Proofs.Resource.Timestamp
import Ingress.Resource.Basic

/-!
# Metadata that are read and written

Metadata whose timestamps are points in time (`Metadata.Dated`) are read back from their written
form (`Metadata.recovers`), and whatever metadata are read are such (`Metadata.ensures_dated`). An
object is read back if what it asks for is (`Resource.readBack_envelope`).
-/

namespace Ingress

open Json

/-! ### Labels -/

/-- A map is made again of its entries. -/
theorem Labels.ofList_toList (labels : Labels) : Std.ExtTreeMap.ofList labels.toList = labels := by
  have hfound {key value : String} (h : labels[key]? = some value) :
      (Std.ExtTreeMap.ofList labels.toList : Labels)[key]? = some value :=
    Std.ExtTreeMap.getElem?_ofList_of_mem Std.ReflCmp.compare_self
      Std.ExtTreeMap.distinct_keys_toList (Std.ExtTreeMap.mem_toList_iff_getElem?_eq_some.mpr h)
  refine Std.ExtTreeMap.ext_getElem? fun key => ?_
  cases hvalue : labels[key]? with
  | some value => exact hfound hvalue
  | none =>
    refine Std.ExtTreeMap.getElem?_ofList_of_contains_eq_false ?_
    rw [Bool.eq_false_iff, Ne, List.contains_iff_mem, List.mem_map]
    rintro ⟨⟨key, value⟩, hmem, rfl⟩
    rw [Std.ExtTreeMap.mem_toList_iff_getElem?_eq_some.mp hmem] at hvalue
    cases hvalue

theorem Labels.recovers (labels : Labels) : Labels.shape.Recovers labels.toJson labels := by
  have hentries : (Shape.entries .text).Recovers labels.toJson labels.toList := by
    have htraverse : Shape.traverse
        (fun entry => (Shape.text.ofJson entry.2).map fun value => (entry.1, value))
        (labels.toList.map fun entry => (entry.1, .string entry.2)) =
          .ok (labels.toList.map id) :=
      Shape.traverse_map fun _ _ => rfl
    rw [List.map_id] at htraverse
    refine ⟨nofun, htraverse, Outline.reads_map ?_⟩
    rintro _ hfield
    obtain ⟨entry, _, rfl⟩ := List.mem_map.mp hfield
    exact (Shape.recovers_text entry.2).reads
  have hmade := hentries.map fun entries => (Std.ExtTreeMap.ofList entries : Labels)
  rw [Labels.ofList_toList] at hmade
  exact hmade

/-! ### Owners -/

namespace OwnerReference

/-- The entries of the written form. -/
def entries (owner : OwnerReference) : List (String × Option Json) := [
  ("apiVersion", some (.string owner.apiVersion)),
  ("blockOwnerDeletion", owner.blockOwnerDeletion.map .bool),
  ("controller", owner.controller.map .bool),
  ("kind", some (.string owner.kind)),
  ("name", some (.string owner.name)),
  ("uid", some (.string owner.uid))]

theorem toJson_eq (owner : OwnerReference) : owner.toJson = .object (written owner.entries) :=
  ofFields_eq_written (by simp [entries])

theorem recovers (owner : OwnerReference) :
    OwnerReference.shape.Recovers owner.toJson owner := by
  have hnodup : (owner.entries.map Prod.fst).Nodup := by simp [entries]
  obtain ⟨hversion, hblock, hcontroller, hkind, hname, huid⟩ := forall_holds_written hnodup
  rw [toJson_eq]
  refine Shape.recovers_looseRecord hnodup (by simp [entries]) ?_
  exact (Fields.recovers_looseOr hversion (Shape.recovers_text _)).map OwnerReference.mk
    |>.seq (Fields.recovers_looseOr hkind (Shape.recovers_text _))
    |>.seq (Fields.recovers_looseOr hname (Shape.recovers_text _))
    |>.seq (Fields.recovers_looseOr huid (Shape.recovers_text _))
    |>.seq (Fields.recovers_loose hcontroller fun _ _ => Shape.recovers_bool _)
    |>.seq (Fields.recovers_loose hblock fun _ _ => Shape.recovers_bool _)

end OwnerReference

/-! ### Timestamps -/

theorem Timestamp.recovers {t : Timestamp} (h : t.Valid) :
    Timestamp.shape.Recovers (.string t.text) t := by
  refine Shape.recovers_textAs ?_
  rw [Timestamp.ofText_text h]
  rfl

theorem Timestamp.ensures_valid : Timestamp.shape.Ensures Timestamp.Valid := by
  refine Shape.ensures_textAs fun text t hread => ?_
  cases hmade : Timestamp.ofText text with
  | ok made =>
    rw [hmade] at hread
    cases hread
    exact Timestamp.valid_of_ofText hmade
  | error e =>
    rw [hmade] at hread
    cases hread

/-! ### Metadata -/

namespace Metadata

/-- Metadata whose timestamps are points in time. -/
structure Dated (m : Metadata) : Prop where
  /-- The object was created at one. -/
  creation : ∀ t ∈ m.creationTimestamp, t.Valid
  /-- The object was asked to go at one. -/
  deletion : ∀ t ∈ m.deletionTimestamp, t.Valid

/-- The entries of the written form. -/
def entries (m : Metadata) : List (String × Option Json) := [
  ("annotations", m.annotations.map Labels.toJson),
  ("creationTimestamp", m.creationTimestamp.map fun t => .string t.text),
  ("deletionGracePeriodSeconds", m.deletionGracePeriodSeconds.map fun n => .integer n.toInt),
  ("deletionTimestamp", m.deletionTimestamp.map fun t => .string t.text),
  ("finalizers", m.finalizers.map (.ofList .string)),
  ("generateName", m.generateName.map .string),
  ("generation", m.generation.map fun n => .integer n.toInt),
  ("labels", m.labels.map Labels.toJson),
  ("name", m.name.map .string),
  ("namespace", m.ns.map .string),
  ("ownerReferences", m.ownerReferences.map (.ofList OwnerReference.toJson)),
  ("resourceVersion", m.resourceVersion.map .string),
  ("selfLink", m.selfLink.map .string),
  ("uid", m.uid.map .string)]

theorem toJson_eq (m : Metadata) : m.toJson = .object (written m.entries) :=
  ofFields_eq_written (by simp [entries])

/-- Metadata with proper timestamps are read back from their written form. -/
theorem recovers {m : Metadata} (h : m.Dated) : Metadata.shape.Recovers m.toJson m := by
  have hnodup : (m.entries.map Prod.fst).Nodup := by simp [entries]
  obtain ⟨hannotations, hcreation, hgrace, hdeletion, hfinalizers, hgenerateName, hgeneration,
    hlabels, hname, hns, howners, hversion, hselfLink, huid⟩ := forall_holds_written hnodup
  rw [toJson_eq]
  refine Shape.recovers_looseRecord hnodup (by simp [entries]) ?_
  exact (Fields.recovers_loose hname fun _ _ => Shape.recovers_text _).map Metadata.mk
    |>.seq (Fields.recovers_loose hgenerateName fun _ _ => Shape.recovers_text _)
    |>.seq (Fields.recovers_loose hns fun _ _ => Shape.recovers_text _)
    |>.seq (Fields.recovers_loose huid fun _ _ => Shape.recovers_text _)
    |>.seq (Fields.recovers_loose hversion fun _ _ => Shape.recovers_text _)
    |>.seq (Fields.recovers_loose hselfLink fun _ _ => Shape.recovers_text _)
    |>.seq (Fields.recovers_loose hgeneration fun _ _ => Shape.recovers_int64 _)
    |>.seq (Fields.recovers_loose hlabels fun _ _ => Labels.recovers _)
    |>.seq (Fields.recovers_loose hannotations fun _ _ => Labels.recovers _)
    |>.seq (Fields.recovers_loose hfinalizers fun _ _ =>
      Shape.recovers_list fun _ _ => Shape.recovers_text _)
    |>.seq (Fields.recovers_loose hcreation fun t ht => Timestamp.recovers (h.creation t ht))
    |>.seq (Fields.recovers_loose hdeletion fun t ht => Timestamp.recovers (h.deletion t ht))
    |>.seq (Fields.recovers_loose hgrace fun _ _ => Shape.recovers_int64 _)
    |>.seq (Fields.recovers_loose howners fun _ _ =>
      Shape.recovers_list fun owner _ => owner.recovers)

/-- Metadata that are read have proper timestamps. -/
theorem ensures_dated : Metadata.shape.Ensures Dated := by
  have hstamp (name : String) : (Fields.loose name Timestamp.shape).Ensures
      fun stamp => ∀ t ∈ stamp, t.Valid :=
    Fields.ensures_loose Timestamp.ensures_valid
  refine Shape.ensures_looseRecord (.seq_any (.seq_any (.seq (.seq ?_ (hstamp _)) (hstamp _))))
  -- Nothing is asked of the ten parts before the timestamps.
  refine .seq_any (.seq_any (.seq_any (.seq_any (.seq_any (.seq_any (.seq_any (.seq_any
    (.seq_any (.map ?_)))))))))
  intro _ _ _ _ _ _ _ _ _ _ _ _ creation hcreation deletion hdeletion _ _
  exact { creation := hcreation, deletion := hdeletion }

end Metadata

/-! ### Envelopes -/

namespace Resource

variable {σ K : Type} {specShape : Shape σ} {metadata : Metadata}

/-- The entries of an object's written form. -/
def entries (apiVersion kind : String) (metadata : Metadata) (spec : Json) :
    List (String × Option Json) := [
  ("apiVersion", some (.string apiVersion)),
  ("kind", some (.string kind)),
  ("metadata", some metadata.toJson),
  ("spec", some spec)]

/-- The entries that are kept of an object's text. -/
def keptEntries (metadata : Metadata) (spec : Json) : List (String × Option Json) := [
  ("metadata", some metadata.toJson),
  ("spec", some spec)]

/-- An object that is read back from its written form, as a document and as a text. -/
structure ReadBack (shape : Shape K) (document : Json) (object : K) : Prop where
  /-- The object is made of the document. -/
  ofJson_eq : shape.ofJson document = .ok object
  /-- The object is made of the document's text. -/
  ofText_eq : shape.ofText document.compact = .ok object

/-- An object is read back if what it asks for is; its version and kind are passed over. -/
theorem readBack_envelope {apiVersion kind : String} {spec : Json} {value : σ} (name : String)
    (make : Metadata → σ → K) (hdated : metadata.Dated) (hspec : specShape.Recovers spec value) :
    ReadBack (Shape.record name (make <$> .required "metadata" Metadata.shape <*>
      .required "spec" specShape))
        (envelope apiVersion kind metadata [some ("spec", spec)]) (make metadata value) := by
  have hmetadata := Metadata.recovers hdated
  have hfields {r : Record} (hfirst : r.Holds "metadata" (some metadata.toJson))
      (hsecond : r.Holds "spec" (some spec)) :
      (make <$> Fields.required "metadata" Metadata.shape <*>
        Fields.required "spec" specShape).Recovers r (make metadata value) :=
    ((Fields.recovers_required hfirst hmetadata).map make).seq
      (Fields.recovers_required hsecond hspec)
  have hnodup : ((entries apiVersion kind metadata spec).map Prod.fst).Nodup := by simp [entries]
  have hkeptNodup : ((keptEntries metadata spec).map Prod.fst).Nodup := by simp [keptEntries]
  obtain ⟨_, _, hfirst, hsecond⟩ := forall_holds_written hnodup
  obtain ⟨hkeptFirst, hkeptSecond⟩ := forall_holds_written hkeptNodup
  have hwritten := hfields hfirst hsecond
  have hkept := Shape.ofJson_record name hkeptNodup (hfields hkeptFirst hkeptSecond)
  have hplain : ∀ suits, Manner.plain ≠ .embedding suits := fun _ h => by cases h
  have hlegible : ∀ field ∈ written (entries apiVersion kind metadata spec),
      Legible (make <$> Fields.required "metadata" Metadata.shape <*>
        Fields.required "spec" specShape).outlines field :=
    List.forall_mem_cons.mpr ⟨.unknown apiVersion rfl rfl,
      List.forall_mem_cons.mpr ⟨.unknown kind rfl rfl,
        List.forall_mem_cons.mpr ⟨.known _ rfl hmetadata.reads,
          List.forall_mem_singleton.mpr (.known _ rfl hspec.reads)⟩⟩⟩
  have hreads := Outline.reads_record hplain (hnodup.sublist (names_written_sublist _)) hlegible
    hwritten.complete
  constructor
  · exact Shape.ofJson_record name hnodup hwritten
  · unfold Shape.ofText
    refine bind_eq_ok_iff.mpr ⟨_, hreads.ofText_compact, ?_⟩
    exact congrArg (Except.mapError fun _ => Fault.unfit) hkept

/-- The metadata of an object that is read have proper timestamps. -/
theorem ensures_envelope {p : K → Prop} {q : σ → Prop} (name : String) {make : Metadata → σ → K}
    (hspec : specShape.Ensures q)
    (hmake : ∀ metadata value, metadata.Dated → q value → p (make metadata value)) :
    (Shape.record name (make <$> .required "metadata" Metadata.shape <*>
      .required "spec" specShape)).Ensures p := by
  refine Shape.ensures_record (.seq (q := q) (.map ?_) (Fields.ensures_required hspec))
  intro r metadata hread value hvalue
  have hdated := Fields.ensures_required Metadata.ensures_dated r metadata hread
  exact hmake metadata value hdated hvalue

end Resource

end Ingress
