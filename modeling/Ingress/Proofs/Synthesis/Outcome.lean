import Mathlib.Data.List.Forall2

/-!
# Computations that may fail

A computation of several steps succeeds when every step does, and a traversal when the step of
every element does. Then the results are those of the elements, one by one and in order
(`forall₂_of_mapM`). A traversal that fails fails as the first element does that fails
(`mapM_eq_error_iff`).
-/

namespace Ingress

/-- A computation that goes on after a step succeeds if both do. -/
theorem bind_eq_ok_iff {ε α β : Type} {first : Except ε α} {next : α → Except ε β} {b : β} :
    first >>= next = .ok b ↔ ∃ a, first = .ok a ∧ next a = .ok b := by
  cases first with
  | error e =>
    constructor
    · intro h
      cases h
    · rintro ⟨a, h, _⟩
      cases h
  | ok a =>
    constructor
    · intro h
      exact ⟨a, rfl, h⟩
    · rintro ⟨a', h, hnext⟩
      cases h
      exact hnext

/-- A computation that goes on after a step fails as the step does, or as what follows does. -/
theorem bind_eq_error_iff {ε α β : Type} {first : Except ε α} {next : α → Except ε β} {e : ε} :
    first >>= next = .error e ↔ first = .error e ∨ ∃ a, first = .ok a ∧ next a = .error e := by
  cases first with
  | error _ => simp [bind, Except.bind]
  | ok a => simp [bind, Except.bind]

/-- The results of a traversal that succeeds are the results of the elements, in order. -/
theorem forall₂_of_mapM {ε α β : Type} {f : α → Except ε β} {items : List α} {results : List β}
    (h : items.mapM f = .ok results) :
    List.Forall₂ (fun a b => f a = .ok b) items results := by
  induction items generalizing results with
  | nil =>
    cases h
    exact .nil
  | cons a items ih =>
    rw [List.mapM_cons, bind_eq_ok_iff] at h
    obtain ⟨b, hhead, htail⟩ := h
    obtain ⟨rest, hrest, hresults⟩ := bind_eq_ok_iff.mp htail
    cases hresults
    exact .cons hhead (ih hrest)

/-- The fault of the first item that has one. -/
def FirstFault {α ε : Type} (faulty : α → ε → Prop) (items : List α) (e : ε) : Prop :=
  ∃ before item after, items = before ++ item :: after ∧
    (∀ other ∈ before, ∀ e', ¬faulty other e') ∧ faulty item e

theorem not_firstFault_nil {α ε : Type} {faulty : α → ε → Prop} {e : ε} :
    ¬FirstFault faulty [] e := by
  rintro ⟨before, item, after, h, _⟩
  exact List.append_ne_nil_of_right_ne_nil before (List.cons_ne_nil item after) h.symm

/-- The first fault is that of the head, or, where the head has none, the first of the rest. -/
theorem firstFault_cons_iff {α ε : Type} {faulty : α → ε → Prop} {head : α} {rest : List α}
    {e : ε} : FirstFault faulty (head :: rest) e ↔
      faulty head e ∨ (∀ e', ¬faulty head e') ∧ FirstFault faulty rest e := by
  constructor
  · rintro ⟨before, item, after, h, hbefore, hitem⟩
    cases before with
    | nil =>
      obtain ⟨rfl, rfl⟩ := List.cons.inj h
      exact .inl hitem
    | cons other before =>
      obtain ⟨rfl, rfl⟩ := List.cons.inj h
      rw [List.forall_mem_cons] at hbefore
      exact .inr ⟨hbefore.1, before, item, after, rfl, hbefore.2, hitem⟩
  · rintro (hhead | ⟨hhead, before, item, after, rfl, hbefore, hitem⟩)
    · exact ⟨[], head, rest, rfl, nofun, hhead⟩
    · exact ⟨head :: before, item, after, rfl, List.forall_mem_cons.mpr ⟨hhead, hbefore⟩, hitem⟩

/-- Items that have the same faults have the same first fault. -/
theorem firstFault_congr {α ε : Type} {faulty faulty' : α → ε → Prop} {items : List α} {e : ε}
    (h : ∀ item ∈ items, ∀ e, faulty item e ↔ faulty' item e) :
    FirstFault faulty items e ↔ FirstFault faulty' items e := by
  induction items with
  | nil => exact iff_of_false not_firstFault_nil not_firstFault_nil
  | cons head rest ih =>
    rw [List.forall_mem_cons] at h
    rw [firstFault_cons_iff, firstFault_cons_iff, ih h.2]
    simp only [h.1]

/-- A traversal fails as the first item does that fails. -/
theorem mapM_eq_error_iff {ε α β : Type} {f : α → Except ε β} {items : List α} {e : ε} :
    items.mapM f = .error e ↔ FirstFault (fun item e => f item = .error e) items e := by
  induction items with
  | nil => exact iff_of_false nofun not_firstFault_nil
  | cons head rest ih =>
    rw [List.mapM_cons, firstFault_cons_iff, ← ih, bind_eq_error_iff]
    cases hhead : f head with
    | error other => simp
    | ok b => simp [bind_eq_error_iff, pure, Except.pure]

/-- A traversal that fails fails as an element does. -/
theorem exists_of_mapM_eq_error {ε α β : Type} {f : α → Except ε β} {items : List α} {e : ε}
    (h : items.mapM f = .error e) : ∃ a ∈ items, f a = .error e := by
  obtain ⟨before, item, after, rfl, _, hitem⟩ := mapM_eq_error_iff.mp h
  exact ⟨item, List.mem_append_right before List.mem_cons_self, hitem⟩

/-- Of related lists, what stands in the second is related to something in the first. -/
theorem exists_of_mem_right {α β : Type} {related : α → β → Prop} {items : List α}
    {results : List β} (h : List.Forall₂ related items results) {b : β} (hb : b ∈ results) :
    ∃ a ∈ items, related a b := by
  induction h with
  | nil => cases hb
  | @cons a _ items _ hhead _ ih =>
    rcases List.mem_cons.mp hb with rfl | hb
    · exact ⟨a, List.mem_cons_self, hhead⟩
    · obtain ⟨a', ha', hrelated⟩ := ih hb
      exact ⟨a', List.mem_cons_of_mem _ ha', hrelated⟩

/-- What stands at one place of related lists can be left out of both. -/
theorem forall₂_eraseIdx {α β : Type} {related : α → β → Prop} {items : List α} {results : List β}
    (h : List.Forall₂ related items results) (i : Nat) :
    List.Forall₂ related (items.eraseIdx i) (results.eraseIdx i) := by
  induction h generalizing i with
  | nil => exact .nil
  | cons hhead htail ih =>
    cases i with
    | zero => exact htail
    | succ i => exact .cons hhead (ih i)

/-- Of related lists, what stands at a place of the second is related to what stands there in the
first. -/
theorem exists_getElem?_left {α β : Type} {related : α → β → Prop} {items : List α}
    {results : List β} (h : List.Forall₂ related items results) {i : Nat} {b : β}
    (hb : results[i]? = some b) : ∃ a, items[i]? = some a ∧ related a b := by
  obtain ⟨hi, rfl⟩ := List.getElem?_eq_some_iff.mp hb
  have hi' : i < items.length := h.length_eq ▸ hi
  exact ⟨items[i], List.getElem?_eq_getElem hi', h.get hi' hi⟩

/-- Lists that are related through what is read off their elements agree in it. -/
theorem map_eq_map_of_forall₂ {α β γ : Type} {f : α → γ} {g : β → γ} {items : List α}
    {results : List β} (h : List.Forall₂ (fun a b => f a = g b) items results) :
    items.map f = results.map g := by
  have hequal := List.forall₂_map_left_iff.mpr (List.forall₂_map_right_iff.mpr h)
  rwa [List.forall₂_eq_eq_eq] at hequal

/-- What holds of an element exactly if it does of what is related to it holds of all elements of a
list exactly if it does of all of a related one. -/
theorem forall_mem_iff_of_forall₂ {α β : Type} {related : α → β → Prop} {p : α → Prop}
    {q : β → Prop} {items : List α} {results : List β} (h : List.Forall₂ related items results)
    (hiff : ∀ a b, related a b → (p a ↔ q b)) : (∀ a ∈ items, p a) ↔ ∀ b ∈ results, q b := by
  induction h with
  | nil => exact iff_of_true nofun nofun
  | cons hhead _ ih => rw [List.forall_mem_cons, List.forall_mem_cons, hiff _ _ hhead, ih]

/-- Of related lists, the elements that have a result correspond to the results. -/
theorem forall₂_filterMap_id {α β : Type} {related : α → Option β → Prop} {p : α → Bool}
    {items : List α} {results : List (Option β)} (h : List.Forall₂ related items results)
    (hp : ∀ a b, related a b → (b.isSome ↔ p a)) :
    List.Forall₂ (fun a b => related a (some b)) (items.filter p) (results.filterMap id) := by
  induction h with
  | nil => exact .nil
  | @cons a result items results hhead _ ih =>
    have hiff := hp a result hhead
    cases result with
    | none =>
      have hout : p a ≠ true := fun hpa => by cases hiff.mpr hpa
      rw [List.filter_cons_of_neg hout, List.filterMap_cons_none rfl]
      exact ih
    | some b =>
      rw [List.filter_cons_of_pos (hiff.mp rfl), List.filterMap_cons_some (f := id) rfl]
      exact .cons hhead ih

end Ingress
