import Mathlib.Data.List.Basic
import Ingress.Json.Shape

/-!
# Objects that are written in part

An object that is written in part has entries, of which some have no value and are left out. A
record that is read from what was written holds every entry under its name (`holds_written`), so a
field finds its own value, or that there is none.
-/

namespace Ingress.Json

/-- What an entry adds to an object: its value under its name, if there is one. -/
def fieldOf (entry : String × Option Json) : Option (String × Json) :=
  entry.2.map fun value => (entry.1, value)

@[simp] theorem fieldOf_some (name : String) (value : Json) :
    fieldOf (name, some value) = some (name, value) := rfl

@[simp] theorem fieldOf_map {α : Type} (name : String) (write : α → Json) (value : Option α) :
    fieldOf (name, value.map write) = value.map fun v => (name, write v) :=
  Option.map_map _ _ _

@[simp] theorem fieldOf_ite (name : String) (value : Json) (c : Prop) [Decidable c] :
    fieldOf (name, if c then none else some value) = if c then none else some (name, value) := by
  split <;> rfl

/-- The fields that are written of entries. -/
def written (entries : List (String × Option Json)) : List (String × Json) :=
  entries.filterMap fieldOf

/-- An object that adds what entries add has the fields that are written of them. -/
theorem ofFields_eq_written {fields : List (Option (String × Json))}
    {entries : List (String × Option Json)} (h : fields = entries.map fieldOf) :
    ofFields fields = .object (written entries) := by
  rw [h, ofFields, List.filterMap_map]
  rfl

theorem written_cons_some (name : String) (value : Json) (rest : List (String × Option Json)) :
    written ((name, some value) :: rest) = (name, value) :: written rest := rfl

/-- The names that are written are names of entries. -/
theorem names_written_sublist (entries : List (String × Option Json)) :
    ((written entries).map Prod.fst).Sublist (entries.map Prod.fst) := by
  induction entries with
  | nil => exact .slnil
  | cons entry rest ih =>
    obtain ⟨name, _ | value⟩ := entry
    · exact ih.cons name
    · exact ih.cons_cons name

/-- Where no two fields have one name, none is repeated. -/
theorem repeatedKey?_eq_none (known : List String) {fields : List (String × Json)}
    (hnodup : (fields.map Prod.fst).Nodup) : repeatedKey? known fields = none := by
  induction fields with
  | nil => rfl
  | cons field rest ih =>
    obtain ⟨key, value⟩ := field
    rw [List.map_cons, List.nodup_cons] at hnodup
    have hlater : (rest.any fun later => decide (later.1 = key)) = false := by
      rw [List.any_eq_false]
      intro later hlater
      rw [decide_eq_true_eq]
      rintro rfl
      exact hnodup.1 (List.mem_map.mpr ⟨later, hlater, rfl⟩)
    unfold repeatedKey?
    rw [hlater, Bool.and_false, if_neg Bool.false_ne_true]
    exact ih hnodup.2

/-- A record that holds a value under a name, or none, and has no other field of that name. -/
structure Record.Holds (r : Record) (name : String) (value : Option Json) : Prop where
  /-- The first field of the name has the value. -/
  lookup_eq : r.fields.lookup name = value
  /-- There is no other field of the name. -/
  filter_eq : (r.fields.filter fun field => field.1 = name) =
    value.toList.map fun v => (name, v)

/-- Nothing is held under a name that no entry has. -/
theorem holds_written_of_notMem {entries : List (String × Option Json)} {name : String}
    (h : name ∉ entries.map Prod.fst) : Record.Holds { fields := written entries } name none := by
  have hwritten : ∀ field ∈ written entries, field.1 ≠ name := by
    rintro field hfield rfl
    exact h ((names_written_sublist entries).subset (List.mem_map_of_mem hfield))
  constructor
  · exact List.lookup_eq_none_iff.mpr fun field hfield =>
      bne_iff_ne.mpr fun heq => hwritten field hfield heq.symm
  · exact List.filter_eq_nil_iff.mpr fun field hfield => by
      simpa using hwritten field hfield

/-- Where no two entries have one name, every entry is held under its name. -/
theorem holds_written {entries : List (String × Option Json)}
    (hnodup : (entries.map Prod.fst).Nodup) {name : String} {value : Option Json}
    (h : (name, value) ∈ entries) : Record.Holds { fields := written entries } name value := by
  induction entries with
  | nil => cases h
  | cons entry rest ih =>
    rw [List.map_cons, List.nodup_cons] at hnodup
    rcases List.mem_cons.mp h with rfl | hrest
    · have hothers := holds_written_of_notMem hnodup.1
      cases value with
      | none => exact hothers
      | some value =>
        rw [written_cons_some]
        constructor
        · exact List.lookup_cons_self
        · have hnone := hothers.filter_eq
          simpa using hnone
    · have hheld := ih hnodup.2 hrest
      have hne : entry.1 ≠ name := by
        rintro rfl
        exact hnodup.1 (List.mem_map.mpr ⟨_, hrest, rfl⟩)
      obtain ⟨other, _ | found⟩ := entry
      · exact hheld
      · rw [written_cons_some]
        constructor
        · have hlookup := hheld.lookup_eq
          have hother : (name == other) = false := beq_false_of_ne hne.symm
          simpa [List.lookup_cons, hother] using hlookup
        · have hfilter := hheld.filter_eq
          simpa [hne] using hfilter

/-- Where no two entries have one name, all are held under their names. -/
theorem forall_holds_written {entries : List (String × Option Json)}
    (hnodup : (entries.map Prod.fst).Nodup) :
    entries.Forall fun entry => Record.Holds { fields := written entries } entry.1 entry.2 :=
  List.forall_iff_forall_mem.mpr fun _ hentry => holds_written hnodup hentry

end Ingress.Json
