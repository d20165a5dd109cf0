import Ingress.Proofs.Json.Series
import Ingress.Proofs.Synthesis.Outcome

/-!
# Documents that are read back from their text

`Outline.Reads` says that an outline's reader takes a document off its text, whatever follows it,
and what it keeps of it. Scalars, lists, maps and records of such documents are read back too; of a
record, the texts that it does not have are passed over (`Outline.reads_record`).
-/

namespace Ingress.Json

/-! ### Outlines -/

/-- A document whose text an outline's reader takes off wherever it stands, and what is kept of
it. -/
structure Outline.Reads (outline : Outline) (document kept : Json) : Prop where
  /-- It is no double. -/
  ne_real : ∀ text, document ≠ .real text
  /-- Its text is taken off whatever ends the value. -/
  reader_eq : ∀ fuel depth rest, document.characters.length ≤ fuel → Ends rest →
    outline.reader fuel depth (document.characters ++ rest) = .ok (kept, rest)

namespace Outline

theorem Reads.begins {outline : Outline} {document kept : Json}
    (h : outline.Reads document kept) : Begins document.characters :=
  begins_characters h.ne_real

theorem reads_scalar_string {accepts : Json → Bool} {text : String}
    (h : accepts (.string text) = true) :
    (Outline.scalar accepts).Reads (.string text) (.string text) := by
  refine ⟨nofun, ?_⟩
  intro fuel depth rest hfuel _
  rw [characters_string] at hfuel ⊢
  rw [toList_quoted_append, reader, readAccepted, readAtom, readScalar,
    readString_escapedCharacters hfuel]
  · exact if_pos h
  all_goals exact nofun

theorem reads_scalar_bool {accepts : Json → Bool} {value : Bool}
    (h : accepts (.bool value) = true) :
    (Outline.scalar accepts).Reads (.bool value) (.bool value) := by
  refine ⟨nofun, ?_⟩
  intro fuel depth rest _ _
  rw [characters_bool]
  cases value <;> exact if_pos h

theorem readAtom_toString (fuel : Nat) (value : Int) (rest : List Char) :
    readAtom fuel ((toString value).toList ++ rest) =
      readNumber ((toString value).toList ++ rest) := by
  obtain ⟨c, others, htext, hc⟩ := exists_toString_eq_cons value
  have hother (d : Char) (hd : ¬ (d = '-' ∨ d.isDigit = true)) (tail : List Char) :
      c :: (others ++ rest) ≠ d :: tail :=
    fun heq => ne_of_signOrDigit hc hd (List.cons.inj heq).1
  rw [htext, List.cons_append, readAtom, readScalar]
  · exact nofun
  · exact hother '"' (by decide)
  · exact hother 'n' (by decide)
  · exact hother 't' (by decide)
  · exact hother 'f' (by decide)
  · exact hother '[' (by decide)
  · exact hother '\x7b' (by decide)

theorem reads_scalar_integer {accepts : Json → Bool} {value : Int}
    (hleast : -9223372036854775808 ≤ value) (hgreatest : value ≤ 9223372036854775807)
    (h : accepts (.integer value) = true) :
    (Outline.scalar accepts).Reads (.integer value) (.integer value) := by
  refine ⟨nofun, ?_⟩
  intro fuel depth rest _ hrest
  rw [characters_integer, reader, readAccepted, readAtom_toString,
    readNumber_toString hleast hgreatest hrest]
  exact if_pos h

theorem reads_nullable_null (item : Outline) : (Outline.nullable item).Reads .null .null := by
  refine ⟨nofun, ?_⟩
  intro fuel depth rest _ _
  rw [characters_null]
  rfl

/-- What is not null is a value. -/
theorem Reads.nullable {item : Outline} {document : Json} (h : item.Reads document document)
    (hne : document ≠ .null) : (Outline.nullable item).Reads document document := by
  refine ⟨h.ne_real, ?_⟩
  intro fuel depth rest hfuel hrest
  have hread := h.reader_eq fuel depth rest hfuel hrest
  have hother := characters_ne_cons_n h.ne_real hne
  obtain ⟨c, others, htext⟩ := List.exists_cons_of_ne_nil h.begins.ne_nil
  rw [htext] at hread hother ⊢
  rw [reader, readNullable]
  · exact hread
  · intro tail heq
    exact hother others (congrArg (· :: others) (List.cons.inj heq).1)

/-- Items of a container are read one by one. -/
theorem readsEach_characters {item : Outline} {documents : List Json}
    (h : ∀ document ∈ documents, item.Reads document document) {fuel : Nat} (depth : Nat)
    (hfuel : ([','].intercalate (documents.map characters)).length ≤ fuel) :
    ReadsEach (item.reader fuel depth) characters id documents := by
  intro document hdocument
  have hlength := length_le_of_mem_intercalate (List.mem_map_of_mem (f := characters) hdocument)
  exact ⟨(h document hdocument).begins, fun rest hrest =>
    (h document hdocument).reader_eq fuel depth rest (Nat.le_trans hlength hfuel) hrest⟩

theorem reads_list {item : Outline} {documents : List Json}
    (h : ∀ document ∈ documents, item.Reads document document) :
    (Outline.list item).Reads (.array documents) (.array documents) := by
  refine ⟨nofun, ?_⟩
  intro fuel depth rest hfuel _
  rw [characters_array, List.length_cons, List.length_append] at hfuel
  have hinner : ([','].intercalate (documents.map characters)).length ≤ fuel := by omega
  have heach := readsEach_characters h (depth - 1) hinner
  rw [characters_array, reader, List.cons_append, readList, List.append_assoc,
    List.singleton_append, readSeries_intercalate (.inl rfl) heach hinner, List.map_id]
  rfl

end Outline

/-! ### Fields -/

section Fields

variable {κ : Type} {key : Reader κ} {made : κ} {field : String × Json}

/-- A key is read up to the value behind its colon. -/
theorem readKey_fieldCharacters (hvalue : Begins field.2.characters)
    (hkey : ∀ rest, key (escapedCharacters field.1.toList ++ '"' :: rest) =
      .ok (made, rest)) (rest : List Char) :
    readKey key (fieldCharacters field ++ rest) = .ok (made, field.2.characters ++ rest) := by
  rw [fieldCharacters, List.append_assoc, toList_quoted_append, List.cons_append, readKey, hkey]
  dsimp only [bind, Except.bind]
  rw [skipBlanks_cons (by decide)]
  exact congrArg (fun rest => Except.ok (made, rest)) (hvalue.skipBlanks rest)

theorem length_fields_le_characters (fields : List (String × Json)) :
    ([','].intercalate (fields.map fieldCharacters)).length ≤
      (object fields).characters.length := by
  rw [characters_object, List.length_cons, List.length_append]
  omega

theorem length_quoted_le_fieldCharacters (field : String × Json) :
    (quoted field.1).toList.length ≤ (fieldCharacters field).length := by
  rw [fieldCharacters, List.length_append]
  omega

theorem length_characters_le_fieldCharacters (field : String × Json) :
    field.2.characters.length ≤ (fieldCharacters field).length := by
  rw [fieldCharacters, List.length_append, List.length_cons]
  omega

theorem begins_fieldCharacters (field : String × Json) : Begins (fieldCharacters field) := by
  rw [fieldCharacters, toList_quoted]
  exact .cons (by decide) _

end Fields

namespace Outline

theorem reads_map {value : Outline} {fields : List (String × Json)}
    (h : ∀ field ∈ fields, value.Reads field.2 field.2) :
    (Outline.map value).Reads (.object fields) (.object fields) := by
  refine ⟨nofun, ?_⟩
  intro fuel depth rest hfuel _
  have hinner := Nat.le_trans (length_fields_le_characters fields) hfuel
  have heach : ReadsEach (readField (readString fuel) (value.reader fuel (depth - 1)))
      fieldCharacters id fields := by
    intro field hfield
    have hlength := length_le_of_mem_intercalate
      (List.mem_map_of_mem (f := fieldCharacters) hfield)
    have hkey := length_quoted_le_fieldCharacters field
    have hvalue := length_characters_le_fieldCharacters field
    refine ⟨begins_fieldCharacters field, fun rest hrest => ?_⟩
    rw [readField, readKey_fieldCharacters (h field hfield).begins
      (readString_escapedCharacters (by omega))]
    dsimp only [bind, Except.bind]
    rw [(h field hfield).reader_eq fuel _ rest (by omega) hrest]
    rfl
  rw [characters_object, reader, List.cons_append, readMap, List.append_assoc,
    List.singleton_append, readSeries_intercalate (.inr rfl) heach hinner, List.map_id]
  rfl

end Outline

/-! ### Records -/

/-- The fields of an object that a record has. -/
def keptFields (fields : List (String × Absence × Outline)) (written : List (String × Json)) :
    List (String × Json) :=
  written.filter fun field => (fields.find? (·.1 = field.1)).isSome

theorem fieldReaders_eq_map (fuel depth : Nat) (fields : List (String × Absence × Outline)) :
    Outline.fieldReaders fuel depth fields = fields.map fun o =>
      { name := o.1, absence := o.2.1, read := o.2.2.reader fuel depth } := by
  induction fields with
  | nil => rfl
  | cons o rest ih =>
    rw [Outline.fieldReaders, ih]
    rfl

/-- The reader of a field is that of its outline. -/
theorem find?_fieldReaders (fuel depth : Nat) (fields : List (String × Absence × Outline))
    (key : String) : (Outline.fieldReaders fuel depth fields).find? (·.name = key) =
      (fields.find? (·.1 = key)).map fun o =>
        { name := o.1, absence := o.2.1, read := o.2.2.reader fuel depth } := by
  rw [fieldReaders_eq_map, List.find?_map]
  rfl

/-- A key that nothing refuses. -/
theorem readNewKey_escapedCharacters {fuel : Nat} {refused : String → Bool} {key : String}
    (hfuel : (quoted key).toList.length ≤ fuel) (hrefused : refused key = false)
    (rest : List Char) :
    readNewKey fuel refused (escapedCharacters key.toList ++ '"' :: rest) =
      .ok (key, rest) := by
  rw [readNewKey, readString_escapedCharacters hfuel]
  dsimp only [bind, Except.bind]
  rw [hrefused]
  rfl

section Records

variable {fuel : Nat} {manner : Manner} {fields : List (String × Absence × Outline)}
  {found : List (String × Json)} {field : String × Json}

theorem readNamedField_of_some (depth : Nat) {o : String × Absence × Outline}
    (hfind : fields.find? (·.1 = field.1) = some o) (hreads : o.2.2.Reads field.2 field.2)
    (hnew : ∀ earlier ∈ found, earlier.1 ≠ field.1)
    (hfuel : (fieldCharacters field).length ≤ fuel) {rest : List Char} (hrest : Ends rest) :
    readNamedField fuel depth manner (Outline.fieldReaders fuel depth fields) found
      (fieldCharacters field ++ rest) = .ok (found ++ [field], rest) := by
  have hkey := Nat.le_trans (length_quoted_le_fieldCharacters field) hfuel
  have hvalue := Nat.le_trans (length_characters_le_fieldCharacters field) hfuel
  have hunrepeated : (found.any fun earlier => decide (earlier.1 = field.1)) = false := by
    rw [List.any_eq_false]
    exact fun earlier hearlier => by simpa using hnew earlier hearlier
  have hknown := find?_fieldReaders fuel depth fields field.1
  rw [hfind, Option.map_some] at hknown
  rw [readNamedField]
  dsimp only
  rw [readKey_fieldCharacters hreads.begins (readNewKey_escapedCharacters hkey _)]
  · dsimp only [bind, Except.bind]
    rw [hknown]
    dsimp only
    rw [hreads.reader_eq fuel depth rest hvalue hrest]
    rfl
  · rw [hunrepeated, Bool.and_false]

/-- A text that nobody asks for is passed over. -/
theorem skipValue_quoted {text : String} (hfuel : (quoted text).toList.length ≤ fuel)
    (rest : List Char) : skipValue fuel ((quoted text).toList ++ rest) = .ok ((), rest) := by
  have hlength := length_lt_length_quoted text
  have hskip := skipString_escapedCharacters (Nat.lt_of_lt_of_le hlength hfuel) rest
  rw [toList_quoted_append, skipValue, skipNested, skipScalar]
  · exact hskip
  · exact nofun
  · exact nofun

theorem readNamedField_of_none (depth : Nat) (hmanner : ∀ suits, manner ≠ .embedding suits)
    {text : String} (hfind : fields.find? (·.1 = field.1) = none)
    (htext : field.2 = .string text) (hfuel : (fieldCharacters field).length ≤ fuel)
    (rest : List Char) :
    readNamedField fuel depth manner (Outline.fieldReaders fuel depth fields) found
      (fieldCharacters field ++ rest) = .ok (found, rest) := by
  have hkey := Nat.le_trans (length_quoted_le_fieldCharacters field) hfuel
  have hvalue := Nat.le_trans (length_characters_le_fieldCharacters field) hfuel
  have hbegins : Begins field.2.characters := by
    rw [htext, characters_string]
    exact begins_toList_quoted text
  have hknown := find?_fieldReaders fuel depth fields field.1
  rw [hfind, Option.map_none] at hknown
  rw [htext, characters_string] at hvalue
  have hother : manner.readOther fuel depth (field.2.characters ++ rest) = .ok (none, rest) := by
    rw [htext, characters_string]
    cases manner with
    | plain | loose =>
      rw [Manner.readOther]
      dsimp only
      rw [skipValue_quoted hvalue]
      rfl
    | embedding suits => exact absurd rfl (hmanner suits)
  rw [readNamedField]
  dsimp only
  rw [readKey_fieldCharacters hbegins (readNewKey_escapedCharacters hkey _)]
  · dsimp only [bind, Except.bind]
    rw [hknown]
    dsimp only
    rw [hother]
    exact congrArg (fun found => Except.ok (found, rest)) (List.append_nil found)
  · rw [hknown, Option.isSome_none, Bool.and_false, Bool.false_and]

/-- A field that is read by its outline, or passed over as a text that the record does not have. -/
inductive Legible (fields : List (String × Absence × Outline)) (field : String × Json) : Prop where
  /-- The record has the field. -/
  | known (o : String × Absence × Outline) (hfind : fields.find? (·.1 = field.1) = some o)
    (hreads : o.2.2.Reads field.2 field.2)
  /-- The record does not have the field. -/
  | unknown (text : String) (hfind : fields.find? (·.1 = field.1) = none)
    (htext : field.2 = .string text)

/-- The fields of an object are read one after another, and those that the record has are kept. -/
theorem readsInTurn_readNamedField (depth : Nat) (hmanner : ∀ suits, manner ≠ .embedding suits)
    {written : List (String × Json)} (hnodup : (written.map Prod.fst).Nodup)
    (hlegible : ∀ field ∈ written, Legible fields field)
    (hfuel : ([','].intercalate (written.map fieldCharacters)).length ≤ fuel) :
    ReadsInTurn (readNamedField fuel depth manner (Outline.fieldReaders fuel depth fields))
      fieldCharacters (keptFields fields) written := by
  intro before field after hwritten
  have hfield : field ∈ written := hwritten ▸ List.mem_append_right _ List.mem_cons_self
  have hlength := Nat.le_trans (length_le_of_mem_intercalate
    (List.mem_map_of_mem (f := fieldCharacters) hfield)) hfuel
  refine ⟨begins_fieldCharacters field, fun rest hrest => ?_⟩
  have happend : keptFields fields (before ++ [field]) =
      keptFields fields before ++ keptFields fields [field] := List.filter_append ..
  rw [happend]
  cases hlegible field hfield with
  | known o hfind hreads =>
    -- A field of the same name before this one would make the reader refuse it.
    have hnew : ∀ earlier ∈ keptFields fields before, earlier.1 ≠ field.1 := by
      intro earlier hearlier heq
      rw [hwritten, List.map_append, List.map_cons] at hnodup
      exact (List.nodup_append.mp hnodup).2.2 earlier.1
        (List.mem_map_of_mem (List.mem_of_mem_filter hearlier)) field.1 List.mem_cons_self heq
    have hkept : keptFields fields [field] = [field] := by
      rw [keptFields, List.filter_singleton, hfind]
      rfl
    rw [hkept]
    exact readNamedField_of_some depth hfind hreads hnew hlength hrest
  | unknown text hfind htext =>
    have hkept : keptFields fields [field] = [] := by
      rw [keptFields, List.filter_singleton, hfind]
      rfl
    rw [hkept, List.append_nil]
    exact readNamedField_of_none depth hmanner hfind htext hlength rest

/-- A field that has to be there is kept. -/
theorem all_fieldReaders_keptFields (fuel depth : Nat) {written : List (String × Json)}
    (hcomplete : ∀ o ∈ fields, o.2.1 = .refused → o.1 ∈ written.map Prod.fst) :
    ((Outline.fieldReaders fuel depth fields).all fun field =>
      decide (field.absence ≠ .refused) ||
        (keptFields fields written).any fun f => decide (f.1 = field.name)) = true := by
  rw [fieldReaders_eq_map, List.all_map, List.all_eq_true]
  intro o ho
  by_cases hrefused : o.2.1 = .refused
  · obtain ⟨field, hfield, hname⟩ := List.mem_map.mp (hcomplete o ho hrefused)
    have hfind : (fields.find? (·.1 = field.1)).isSome = true :=
      List.find?_isSome.mpr ⟨o, ho, decide_eq_true hname.symm⟩
    have hkept : field ∈ keptFields fields written := List.mem_filter.mpr ⟨hfield, hfind⟩
    exact Bool.or_eq_true_iff.mpr (.inr
      (List.any_eq_true.mpr ⟨field, hkept, decide_eq_true hname⟩))
  · exact Bool.or_eq_true_iff.mpr (.inl (decide_eq_true hrefused))

/-- An object is read as a record, without the texts that the record does not have. -/
theorem Outline.reads_record (hmanner : ∀ suits, manner ≠ .embedding suits)
    {written : List (String × Json)} (hnodup : (written.map Prod.fst).Nodup)
    (hlegible : ∀ field ∈ written, Legible fields field)
    (hcomplete : ∀ o ∈ fields, o.2.1 = .refused → o.1 ∈ written.map Prod.fst) :
    (Outline.record manner fields).Reads (.object written)
      (.object (keptFields fields written)) := by
  refine ⟨nofun, ?_⟩
  intro fuel depth rest hfuel _
  have hinner := Nat.le_trans (length_fields_le_characters written) hfuel
  have hturn := readsInTurn_readNamedField (depth - 1) hmanner hnodup hlegible hinner
  have hall := all_fieldReaders_keptFields fuel (depth - 1) hcomplete
  have hsuits : manner.suitsOthers (keptFields fields written) = true := by
    cases manner with
    | plain | loose => rfl
    | embedding suits => exact absurd rfl (hmanner suits)
  rw [characters_object, reader, List.cons_append, readRecord, List.append_assoc,
    List.singleton_append, readNamed]
  refine bind_eq_ok_iff.mpr ⟨_, readObject_intercalate hturn hinner rest, ?_⟩
  dsimp only
  rw [hall, hsuits]
  rfl

end Records

/-- Where a record has all fields of an object, all are kept. -/
theorem keptFields_eq_self {fields : List (String × Absence × Outline)}
    {written : List (String × Json)}
    (h : ∀ field ∈ written, (fields.find? (·.1 = field.1)).isSome = true) :
    keptFields fields written = written :=
  List.filter_eq_self.mpr h

/-! ### Whole texts -/

/-- A document's text is read to its end. -/
theorem Outline.Reads.ofText_compact {outline : Outline} {document kept : Json}
    (h : outline.Reads document kept) : outline.ofText document.compact = .ok kept := by
  have hends : Ends [] := nofun
  have hread := h.reader_eq document.characters.length maxDepth [] (Nat.le_refl _) hends
  have hskip := h.begins.skipBlanks []
  rw [List.append_nil] at hread hskip
  unfold ofText readAll
  refine bind_eq_ok_iff.mpr ⟨(kept, []), ?_, rfl⟩
  rw [← String.length_toList]
  exact (congrArg (outline.reader document.characters.length maxDepth) hskip).trans hread

end Ingress.Json
