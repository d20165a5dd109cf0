import Ingress.Json.Shape
import Ingress.Proofs.Synthesis.Outcome

/-!
# What is true of all that is read

Some values are made by a reader that checks what it reads, so that whatever it makes has a
property. `Shape.Ensures` says so of a shape and `Fields.Ensures` of fields; records have what their
fields ensure.
-/

namespace Ingress.Json

variable {α β : Type} {p : α → Prop}

/-- All that a shape makes of documents has a property. -/
def Shape.Ensures (shape : Shape α) (p : α → Prop) : Prop :=
  ∀ document value, shape.ofJson document = .ok value → p value

/-- All that fields make of records has a property. -/
def Fields.Ensures (fields : Fields α) (p : α → Prop) : Prop :=
  ∀ r value, fields.ofRecord r = .ok value → p value

namespace Shape

/-- What is not null is a value. -/
theorem ofJson_nullable_of_ne {item : Shape α} {document : Json} (h : document ≠ .null) :
    item.nullable.ofJson document = do return some (← item.ofJson document) := by
  cases document with
  | null => exact absurd rfl h
  | _ => rfl

theorem ensures_textAs {read : String → Except ShapeError α}
    (h : ∀ text value, read text = .ok value → p value) : (textAs read).Ensures p := by
  intro document value hread
  cases document with
  | string text => exact h text value hread
  | _ => cases hread

theorem Ensures.nullable {item : Shape α} (h : item.Ensures p) :
    item.nullable.Ensures fun value => ∀ v ∈ value, p v := by
  intro document value hread
  by_cases hnull : document = .null
  · rw [hnull] at hread
    cases hread
    exact nofun
  · rw [ofJson_nullable_of_ne hnull] at hread
    obtain ⟨v, hv, hvalue⟩ := bind_eq_ok_iff.mp hread
    cases hvalue
    rintro _ ⟨⟩
    exact h document v hv

/-- What is true of each value that is read is true of all of them. -/
theorem forall_of_traverse {read : β → Except ShapeError α}
    (h : ∀ element value, read element = .ok value → p value) {elements : List β}
    {values : List α} (hread : traverse read elements = .ok values) :
    ∀ value ∈ values, p value := by
  induction elements generalizing values with
  | nil =>
    cases hread
    exact List.forall_mem_nil _
  | cons element rest ih =>
    obtain ⟨head, hhead, hread⟩ := bind_eq_ok_iff.mp hread
    obtain ⟨tail, htail, hvalues⟩ := bind_eq_ok_iff.mp hread
    cases hvalues
    exact List.forall_mem_cons.mpr ⟨h element head hhead, ih htail⟩

end Shape

namespace Fields

variable {name : String}

theorem Ensures.map {fields : Fields β} {f : β → α} (h : fields.Ensures fun value => p (f value)) :
    (f <$> fields).Ensures p := by
  intro r value hread
  rw [ofRecord_map] at hread
  obtain ⟨v, hv, hvalue⟩ := bind_eq_ok_iff.mp hread
  cases hvalue
  exact h r v hv

theorem Ensures.seq {q : β → Prop} {fields : Fields (β → α)} {last : Fields β}
    (h : fields.Ensures fun f => ∀ value, q value → p (f value)) (hlast : last.Ensures q) :
    (fields <*> last).Ensures p := by
  intro r value hread
  rw [ofRecord_seq] at hread
  obtain ⟨f, hf, hread⟩ := bind_eq_ok_iff.mp hread
  obtain ⟨v, hv, hvalue⟩ := bind_eq_ok_iff.mp hread
  cases hvalue
  exact h r f hf v (hlast r v hv)

/-- Nothing is asked of the last field. -/
theorem Ensures.seq_any {fields : Fields (β → α)} {last : Fields β}
    (h : fields.Ensures fun f => ∀ value, p (f value)) : (fields <*> last).Ensures p :=
  Ensures.seq (q := fun _ => True) (fun r f hf value _ => h r f hf value) fun _ _ _ => trivial

theorem ensures_required {item : Shape α} (h : item.Ensures p) :
    (required name item).Ensures p := by
  intro r value hread
  unfold required at hread
  dsimp only at hread
  split at hread
  · next document _ => exact h document value hread
  · cases hread

theorem ensures_loose {item : Shape α} (h : item.Ensures p) :
    (loose name item).Ensures fun value => ∀ v ∈ value, p v := by
  refine Ensures.map ?_
  intro r value hread v hv
  obtain ⟨values, hvalues, hlast⟩ := bind_eq_ok_iff.mp hread
  cases hlast
  have hall := Shape.forall_of_traverse h.nullable hvalues
  exact hall (some v) (List.mem_of_getLast? (Option.join_eq_some_iff.mp hv)) v rfl

end Fields

theorem Shape.ensures_record {name : String} {fields : Fields α} (h : fields.Ensures p) :
    (Shape.record name fields).Ensures p := by
  intro document value hread
  obtain ⟨r, _, hread⟩ := bind_eq_ok_iff.mp hread
  exact h r value hread

/-- What is read of a text is made of a document. -/
theorem Shape.Ensures.of_ofText {shape : Shape α} (h : shape.Ensures p) {text : String} {value : α}
    (hread : shape.ofText text = .ok value) : p value := by
  obtain ⟨document, _, hread⟩ := bind_eq_ok_iff.mp hread
  cases hvalue : shape.ofJson document with
  | error e =>
    rw [hvalue] at hread
    cases hread
  | ok made =>
    rw [hvalue] at hread
    cases hread
    exact h document value hvalue

theorem Shape.ensures_looseRecord {fields : Fields α} (h : fields.Ensures p) :
    (Shape.looseRecord fields).Ensures p := by
  intro document value hread
  cases document with
  | object written => exact h _ value hread
  | _ => cases hread

end Ingress.Json
