import Ingress.Proofs.Json.Reading
import Ingress.Proofs.Json.Written

/-!
# Values that are read back

`Shape.Recovers` says that a shape takes a document from its text and makes of it the value that it
was written for, and `Fields.Recovers` says so of fields and a record. Both are put together as
shapes and fields are.
-/

namespace Ingress.Json

/-! ### Shapes -/

variable {α β : Type}

/-- A document that was written for a value, as a shape reads it. -/
structure Shape.Recovers (shape : Shape α) (document : Json) (value : α) : Prop where
  /-- It is not taken for the absence of a value. -/
  ne_null : document ≠ .null
  /-- The value is made of it. -/
  ofJson_eq : shape.ofJson document = .ok value
  /-- It is what is read of its text. -/
  reads : shape.outline.Reads document document

namespace Shape

theorem recovers_text (value : String) : text.Recovers (.string value) value :=
  ⟨nofun, rfl, Outline.reads_scalar_string rfl⟩

theorem recovers_textAs {read : String → Except ShapeError α} {written : String} {value : α}
    (h : read written = .ok value) : (textAs read).Recovers (.string written) value := by
  have haccepts : (read written).isOk = true := by
    rw [h]
    rfl
  exact ⟨nofun, h, Outline.reads_scalar_string haccepts⟩

theorem recovers_bool (value : Bool) : bool.Recovers (.bool value) value :=
  ⟨nofun, rfl, Outline.reads_scalar_bool rfl⟩

theorem recovers_integerIn {least greatest value : Int} (hleast : -9223372036854775808 ≤ least)
    (hgreatest : greatest ≤ 9223372036854775807) (h : least ≤ value ∧ value ≤ greatest) :
    (integerIn least greatest).Recovers (.integer value) value := by
  have hread : (integerIn least greatest).ofJson (.integer value) = .ok value := if_pos h
  have haccepts : ((integerIn least greatest).ofJson (.integer value)).isOk = true := by
    rw [hread]
    rfl
  exact ⟨nofun, hread, Outline.reads_scalar_integer (Int.le_trans hleast h.1)
    (Int.le_trans h.2 hgreatest) haccepts⟩

theorem Recovers.map {shape : Shape α} {document : Json} {value : α}
    (h : shape.Recovers document value) (f : α → β) :
    (shape.map f).Recovers document (f value) := by
  refine ⟨h.ne_null, ?_, h.reads⟩
  change (shape.ofJson document).map f = _
  rw [h.ofJson_eq]
  rfl

theorem recovers_int32 (value : Int32) : int32.Recovers (.integer value.toInt) value := by
  have hleast := value.le_toInt
  have hgreatest := value.toInt_lt
  have hread : int32.Recovers (.integer value.toInt) (Int32.ofInt value.toInt) :=
    (recovers_integerIn (by decide) (by decide) (by omega)).map Int32.ofInt
  rw [Int32.ofInt_toInt] at hread
  exact hread

theorem recovers_int64 (value : Int64) : int64.Recovers (.integer value.toInt) value := by
  have hleast := value.le_toInt
  have hgreatest := value.toInt_lt
  have hread : int64.Recovers (.integer value.toInt) (Int64.ofInt value.toInt) :=
    (recovers_integerIn (by decide) (by decide) (by omega)).map Int64.ofInt
  rw [Int64.ofInt_toInt] at hread
  exact hread

/-- A document that is written for a value is read as one where null may stand. -/
theorem Recovers.nullable {shape : Shape α} {document : Json} {value : α}
    (h : shape.Recovers document value) : shape.nullable.Recovers document (some value) := by
  refine ⟨h.ne_null, ?_, h.reads.nullable h.ne_null⟩
  have hne := h.ne_null
  have heq := h.ofJson_eq
  cases document with
  | null => exact absurd rfl hne
  | _ =>
    change (shape.ofJson _).map some = _
    rw [heq]
    rfl

/-- What was written of a list of values, one by one, is read back. -/
theorem traverse_map {γ : Type} {read : γ → Except ShapeError α} {write : β → γ} {made : β → α}
    {values : List β} (h : ∀ value ∈ values, read (write value) = .ok (made value)) :
    traverse read (values.map write) = .ok (values.map made) := by
  induction values with
  | nil => rfl
  | cons value rest ih =>
    rw [List.forall_mem_cons] at h
    rw [List.map_cons, traverse, h.1, ih h.2]
    rfl

theorem recovers_list {item : Shape α} {write : α → Json} {values : List α}
    (h : ∀ value ∈ values, item.Recovers (write value) value) :
    (list item).Recovers (.ofList write values) values := by
  have htraverse : traverse item.ofJson (values.map write) = .ok (values.map id) :=
    traverse_map fun value hvalue => (h value hvalue).ofJson_eq
  rw [List.map_id] at htraverse
  refine ⟨nofun, htraverse, Outline.reads_list ?_⟩
  rintro _ hdocument
  obtain ⟨value, hvalue, rfl⟩ := List.mem_map.mp hdocument
  exact (h value hvalue).reads

/-- What was written is read back from its text. -/
theorem Recovers.ofText_compact {shape : Shape α} {document : Json} {value : α}
    (h : shape.Recovers document value) : shape.ofText document.compact = .ok value := by
  unfold ofText
  rw [h.reads.ofText_compact]
  dsimp only [bind, Except.bind]
  rw [h.ofJson_eq]
  rfl

end Shape

/-! ### Fields -/

/-- Fields that make of a record the value that it was written for. -/
structure Fields.Recovers (fields : Fields α) (r : Record) (value : α) : Prop where
  /-- The value is made of the record. -/
  ofRecord_eq : fields.ofRecord r = .ok value
  /-- What the record holds under the name of a field is read by the field's outline. -/
  reads : ∀ o ∈ fields.outlines, ∀ document, (o.1, document) ∈ r.fields →
    o.2.2.Reads document document
  /-- A field that has to be there is there. -/
  complete : ∀ o ∈ fields.outlines, o.2.1 = .refused → o.1 ∈ r.fields.map Prod.fst

namespace Fields

variable {r : Record} {name : String} {item : Shape α}

theorem Recovers.map {fields : Fields α} {value : α} (h : fields.Recovers r value) (f : α → β) :
    (f <$> fields).Recovers r (f value) := by
  refine ⟨?_, h.reads, h.complete⟩
  rw [ofRecord_map, h.ofRecord_eq]
  rfl

theorem Recovers.seq {fields : Fields (α → β)} {f : α → β} (h : fields.Recovers r f)
    {last : Fields α} {value : α} (hlast : last.Recovers r value) :
    (fields <*> last).Recovers r (f value) := by
  refine ⟨?_, ?_, ?_⟩
  · rw [ofRecord_seq, h.ofRecord_eq, hlast.ofRecord_eq]
    rfl
  · rw [outlines_seq]
    exact List.forall_mem_append.mpr ⟨h.reads, hlast.reads⟩
  · rw [outlines_seq]
    exact List.forall_mem_append.mpr ⟨h.complete, hlast.complete⟩

/-- A record holds nothing else under a name. -/
theorem eq_of_holds {document : Json} {found : Option Json} (hholds : r.Holds name found)
    (hdocument : (name, document) ∈ r.fields) : found = some document := by
  have hfiltered : (name, document) ∈ r.fields.filter fun field => field.1 = name :=
    List.mem_filter.mpr ⟨hdocument, decide_eq_true rfl⟩
  rw [hholds.filter_eq] at hfiltered
  obtain ⟨value, hvalue, heq⟩ := List.mem_map.mp hfiltered
  cases heq
  exact Option.mem_toList.mp hvalue

/-- A single field whose value was written, or left out. -/
theorem recovers_of_holds {fields : Fields α} {absence : Absence} {outline : Outline}
    {found : Option Json} {value : α} (houtlines : fields.outlines = [(name, absence, outline)])
    (hholds : r.Holds name found) (hread : fields.ofRecord r = .ok value)
    (hreads : ∀ document ∈ found, outline.Reads document document)
    (hcomplete : absence = .refused → found.isSome = true) : fields.Recovers r value := by
  refine ⟨hread, ?_, ?_⟩
  · rw [houtlines, List.forall_mem_singleton]
    exact fun document hdocument => hreads document (eq_of_holds hholds hdocument)
  · rw [houtlines, List.forall_mem_singleton]
    intro hrefused
    obtain ⟨document, rfl⟩ := Option.isSome_iff_exists.mp (hcomplete hrefused)
    have hmem : (name, document) ∈ r.fields.filter fun field => field.1 = name := by
      rw [hholds.filter_eq]
      exact List.mem_singleton.mpr rfl
    exact List.mem_map.mpr ⟨_, List.mem_of_mem_filter hmem, rfl⟩

theorem recovers_required {document : Json} {value : α} (hholds : r.Holds name (some document))
    (hitem : item.Recovers document value) : (required name item).Recovers r value := by
  refine recovers_of_holds rfl hholds ?_ ?_ fun _ => rfl
  · unfold required
    dsimp only
    rw [hholds.lookup_eq]
    exact hitem.ofJson_eq
  · rintro _ ⟨⟩
    exact hitem.reads

/-- A field with a default finds the value that was written, and where none was written it stands
for its default. -/
theorem recovers_defaulted {default value : α} {document : Option Json}
    (hholds : r.Holds name document) (hitem : ∀ v ∈ document, item.Recovers v value)
    (hdefault : document = none → value = default) :
    (defaulted name default item).Recovers r value := by
  refine recovers_of_holds rfl hholds ?_ (fun v hv => (hitem v hv).reads) nofun
  unfold defaulted
  dsimp only
  rw [hholds.lookup_eq]
  cases document with
  | none =>
    rw [hdefault rfl]
  | some v => exact (hitem v rfl).ofJson_eq

/-- A field that is left out only where it has its default value. -/
theorem recovers_unless {default value : α} {document : Json} {c : Prop} [Decidable c]
    (hholds : r.Holds name (if c then none else some document)) (hdefault : c → value = default)
    (hitem : item.Recovers document value) : (defaulted name default item).Recovers r value := by
  refine recovers_defaulted hholds ?_ ?_
  · intro v hv
    split at hv
    · cases hv
    · cases hv
      exact hitem
  · intro hnone
    split at hnone
    · next hc => exact hdefault hc
    · cases hnone

/-- A field that is always written finds its value, whatever its default. -/
theorem recovers_written {default value : α} {document : Json}
    (hholds : r.Holds name (some document)) (hitem : item.Recovers document value) :
    (defaulted name default item).Recovers r value := by
  refine recovers_defaulted hholds ?_ nofun
  intro v hv
  cases hv
  exact hitem

theorem recovers_optional {write : α → Json} {value : Option α}
    (hholds : r.Holds name (value.map write)) (hitem : ∀ v, item.Recovers (write v) v) :
    (optional name item).Recovers r value := by
  refine recovers_defaulted hholds ?_ ?_
  · intro document hdocument
    obtain ⟨v, rfl, rfl⟩ := Option.map_eq_some_iff.mp hdocument
    exact (hitem v).nullable
  · exact Option.map_eq_none_iff.mp

theorem recovers_nullable {write : α → Json} {value : Option α}
    (hholds : r.Holds name (some (.ofOption write value)))
    (hitem : ∀ v, item.Recovers (write v) v) : (nullable name item).Recovers r value := by
  refine recovers_of_holds rfl hholds ?_ ?_ nofun
  · unfold nullable
    dsimp only
    rw [hholds.lookup_eq]
    cases value with
    | none => rfl
    | some v => exact (hitem v).nullable.ofJson_eq
  · rintro _ ⟨⟩
    cases value with
    | none => exact Outline.reads_nullable_null item.outline
    | some v => exact (hitem v).nullable.reads

theorem recovers_loose {write : α → Json} {value : Option α}
    (hholds : r.Holds name (value.map write)) (hitem : ∀ v ∈ value, item.Recovers (write v) v) :
    (loose name item).Recovers r value := by
  refine recovers_of_holds rfl hholds ?_ ?_ nofun
  · unfold loose
    rw [ofRecord_map]
    unfold last
    dsimp only
    rw [hholds.filter_eq]
    cases value with
    | none => rfl
    | some v =>
      have hread := (hitem v rfl).nullable.ofJson_eq
      simp only [Option.map_some, Option.toList_some, List.map_cons, List.map_nil, Shape.traverse,
        hread]
      rfl
  · intro document hdocument
    obtain ⟨v, hv, rfl⟩ := Option.map_eq_some_iff.mp hdocument
    exact (hitem v hv).nullable.reads

/-- A value that was written is not the default for its absence. -/
theorem recovers_looseOr {default value : α} {document : Json}
    (hholds : r.Holds name (some document)) (hitem : item.Recovers document value) :
    (looseOr name default item).Recovers r value := by
  have hwritten : r.Holds name ((some value).map fun _ => document) := hholds
  have hloose : (loose name item).Recovers r (some value) := by
    refine recovers_loose hwritten ?_
    rintro _ ⟨⟩
    exact hitem
  exact hloose.map (·.getD default)

/-! The names of the fields of a record. -/

@[simp] theorem names_map (f : α → β) (fields : Fields α) : (f <$> fields).names = fields.names :=
  rfl

@[simp] theorem names_seq (fields : Fields (α → β)) (last : Fields α) :
    (fields <*> last).names = fields.names ++ last.names :=
  List.map_append

@[simp] theorem names_required (name : String) (item : Shape α) :
    (required name item).names = [name] := rfl

@[simp] theorem names_defaulted (name : String) (default : α) (item : Shape α) :
    (defaulted name default item).names = [name] := rfl

@[simp] theorem names_optional (name : String) (item : Shape α) :
    (optional name item).names = [name] := rfl

@[simp] theorem names_nullable (name : String) (item : Shape α) :
    (nullable name item).names = [name] := rfl

@[simp] theorem names_loose (name : String) (item : Shape α) :
    (loose name item).names = [name] := rfl

@[simp] theorem names_looseOr (name : String) (default : α) (item : Shape α) :
    (looseOr name default item).names = [name] := rfl

end Fields

/-! ### Records -/

/-- What is written is read by the fields that make the value of it. -/
theorem Fields.Recovers.legible {entries : List (String × Option Json)} {fields : Fields α}
    {value : α} (hfields : fields.Recovers { fields := written entries } value)
    {field : String × Json} (hfield : field ∈ written entries) (hknown : field.1 ∈ fields.names) :
    ∃ o, fields.outlines.find? (·.1 = field.1) = some o ∧ o.2.2.Reads field.2 field.2 := by
  obtain ⟨o, ho, hname⟩ := List.mem_map.mp hknown
  have hsome : (fields.outlines.find? (·.1 = field.1)).isSome = true :=
    List.find?_isSome.mpr ⟨o, ho, decide_eq_true hname⟩
  obtain ⟨found, hfound⟩ := Option.isSome_iff_exists.mp hsome
  have hmatches := List.find?_some hfound
  have hname := of_decide_eq_true hmatches
  refine ⟨found, hfound, hfields.reads found (List.mem_of_find?_eq_some hfound) field.2 ?_⟩
  rw [hname]
  exact hfield

/-- A record of which every field is known is read from its text. -/
theorem Fields.Recovers.reads_record {manner : Manner}
    (hmanner : ∀ suits, manner ≠ .embedding suits) {entries : List (String × Option Json)}
    {fields : Fields α} {value : α} (hnodup : (entries.map Prod.fst).Nodup)
    (hknown : entries.map Prod.fst ⊆ fields.names)
    (hfields : fields.Recovers { fields := written entries } value) :
    (Outline.record manner fields.outlines).Reads (.object (written entries))
      (.object (written entries)) := by
  have hfound {field : String × Json} (hfield : field ∈ written entries) :=
    hfields.legible hfield (hknown ((names_written_sublist entries).subset
      (List.mem_map_of_mem hfield)))
  have hreads := Outline.reads_record hmanner (hnodup.sublist (names_written_sublist entries))
    (fun field hfield => (hfound hfield).elim fun o ho => .known o ho.1 ho.2) hfields.complete
  rw [keptFields_eq_self] at hreads
  · exact hreads
  · intro field hfield
    obtain ⟨o, ho, _⟩ := hfound hfield
    rw [ho]
    rfl

/-- A record is made of what is written, whatever else the record does not have. -/
theorem Shape.ofJson_record {entries : List (String × Option Json)} {fields : Fields α}
    {value : α} (name : String) (hnodup : (entries.map Prod.fst).Nodup)
    (hfields : fields.Recovers { fields := written entries } value) :
    (Shape.record name fields).ofJson (.object (written entries)) = .ok value := by
  have hunrepeated := repeatedKey?_eq_none fields.names
    (hnodup.sublist (names_written_sublist entries))
  unfold Shape.record Record.ofJson Record.ofFields
  dsimp only
  rw [hunrepeated]
  exact hfields.ofRecord_eq

theorem Shape.recovers_record {entries : List (String × Option Json)} {fields : Fields α}
    {value : α} (name : String) (hnodup : (entries.map Prod.fst).Nodup)
    (hknown : entries.map Prod.fst ⊆ fields.names)
    (hfields : fields.Recovers { fields := written entries } value) :
    (Shape.record name fields).Recovers (.object (written entries)) value :=
  ⟨nofun, Shape.ofJson_record name hnodup hfields,
    hfields.reads_record (fun _ h => by cases h) hnodup hknown⟩

/-- A record of one field. -/
theorem Shape.recovers_single {item : Shape α} {document : Json} {value : α} (name field : String)
    (hitem : item.Recovers document value) :
    (Shape.record name (.required field item)).Recovers (.object [(field, document)]) value := by
  have hnodup : ([(field, some document)].map Prod.fst).Nodup := by simp
  exact Shape.recovers_record name hnodup (List.Subset.refl [field])
    (Fields.recovers_required (holds_written hnodup List.mem_cons_self) hitem)

theorem Shape.recovers_looseRecord {entries : List (String × Option Json)} {fields : Fields α}
    {value : α} (hnodup : (entries.map Prod.fst).Nodup)
    (hknown : entries.map Prod.fst ⊆ fields.names)
    (hfields : fields.Recovers { fields := written entries } value) :
    (Shape.looseRecord fields).Recovers (.object (written entries)) value :=
  ⟨nofun, hfields.ofRecord_eq, hfields.reads_record (fun _ h => by cases h) hnodup hknown⟩

end Ingress.Json
