import Ingress.Proofs.Json.Scalar

/-!
# Series that are read back

The text of a value begins with neither a blank nor a closing mark (`begins_characters`), so what
stands between commas is read part by part up to the closing mark, whether the parts are read apart
(`readSeries_intercalate`) or each after what the ones before it have led to
(`readObject_intercalate`).
-/

namespace Ingress.Json

/-! ### The first character -/

/-- A text that begins with neither a blank nor a mark that closes a container. -/
structure Begins (text : List Char) : Prop where
  /-- There is a first character. -/
  ne_nil : text ≠ []
  /-- It is no blank. -/
  isBlank_eq : ∀ c ∈ text.head?, isBlank c = false
  /-- It does not close a container. -/
  ne_close : ∀ c ∈ text.head?, c ≠ ']' ∧ c ≠ '\x7d'

theorem Begins.cons {c : Char} (h : isBlank c = false ∧ c ≠ ']' ∧ c ≠ '\x7d') (text : List Char) :
    Begins (c :: text) where
  ne_nil := nofun
  isBlank_eq := by
    rintro _ ⟨⟩
    exact h.1
  ne_close := by
    rintro _ ⟨⟩
    exact h.2

theorem Begins.skipBlanks {text : List Char} (h : Begins text) (rest : List Char) :
    skipBlanks (text ++ rest) = text ++ rest := by
  obtain ⟨c, more, rfl⟩ := List.exists_cons_of_ne_nil h.ne_nil
  rw [List.cons_append, Json.skipBlanks, List.dropWhile_cons, h.isBlank_eq c rfl]
  rfl

theorem begins_toList_quoted (text : String) : Begins (quoted text).toList := by
  rw [toList_quoted]
  exact .cons (by decide) _

/-- The text of a whole number begins with a sign or a digit. -/
theorem exists_toString_eq_cons (value : Int) : ∃ c others,
    (toString value).toList = c :: others ∧ (c = '-' ∨ c.isDigit = true) := by
  cases value with
  | ofNat n =>
    obtain ⟨first, others, hdigits⟩ := List.exists_cons_of_ne_nil
      (Nat.toDigits_ne_nil (n := n) (b := 10))
    have hfirst := isDigit_of_mem_toDigits first (hdigits ▸ List.mem_cons_self)
    exact ⟨first, others, (toList_toString_ofNat n).trans hdigits, .inr hfirst⟩
  | negSucc n => exact ⟨'-', _, toList_toString_negSucc n, .inl rfl⟩

theorem ne_of_signOrDigit {c d : Char} (hc : c = '-' ∨ c.isDigit = true)
    (hd : ¬ (d = '-' ∨ d.isDigit = true)) : c ≠ d := by
  rintro rfl
  exact hd hc

theorem begins_toList_toString (value : Int) : Begins (toString value).toList := by
  obtain ⟨c, others, htext, hc⟩ := exists_toString_eq_cons value
  rw [htext]
  refine .cons ⟨?_, ne_of_signOrDigit hc (by decide), ne_of_signOrDigit hc (by decide)⟩ _
  unfold isBlank
  simp only [Bool.or_eq_false_iff, decide_eq_false_iff_not]
  refine ⟨⟨⟨?_, ?_⟩, ?_⟩, ?_⟩ <;> exact ne_of_signOrDigit hc (by decide)

/-- The text of a document that is no double begins like a value. -/
theorem begins_characters {document : Json} (h : ∀ text, document ≠ .real text) :
    Begins document.characters := by
  cases document with
  | null =>
    rw [characters_null]
    exact .cons (by decide) _
  | bool value =>
    rw [characters_bool]
    cases value <;> exact .cons (by decide) _
  | integer value =>
    rw [characters_integer]
    exact begins_toList_toString value
  | real text => exact absurd rfl (h text)
  | string text =>
    rw [characters_string]
    exact begins_toList_quoted text
  | array items =>
    rw [characters_array]
    exact .cons (by decide) _
  | object fields =>
    rw [characters_object]
    exact .cons (by decide) _

/-- No text but that of null begins with its letter. -/
theorem characters_ne_cons_n {document : Json} (hreal : ∀ text, document ≠ .real text)
    (hnull : document ≠ .null) (tail : List Char) : document.characters ≠ 'n' :: tail := by
  cases document with
  | null => exact absurd rfl hnull
  | bool value =>
    rw [characters_bool]
    cases value <;> exact nofun
  | integer value =>
    obtain ⟨c, others, htext, hc⟩ := exists_toString_eq_cons value
    rw [characters_integer, htext]
    exact fun heq => ne_of_signOrDigit hc (by decide) (List.cons.inj heq).1
  | real text => exact absurd rfl (hreal text)
  | string text =>
    rw [characters_string, toList_quoted]
    exact nofun
  | array items =>
    rw [characters_array]
    exact nofun
  | object fields =>
    rw [characters_object]
    exact nofun

/-! ### Series -/

section Series

variable {α β : Type} {write : β → List Char} {made : β → α} {item : Reader α} {close : Char}

theorem ends_comma (rest : List Char) : Ends (',' :: rest) := by
  rintro _ ⟨⟩
  exact .inl rfl

/-- A mark that closes a container. -/
def Closes (close : Char) : Prop :=
  close = ']' ∨ close = '\x7d'

theorem Closes.ends (h : Closes close) (rest : List Char) : Ends (close :: rest) := by
  rintro _ ⟨⟩
  exact .inr h

theorem Closes.isBlank_eq (h : Closes close) : isBlank close = false := by
  rcases h with rfl | rfl <;> rfl

theorem Closes.ne_comma (h : Closes close) : ',' ≠ close := by
  rcases h with rfl | rfl <;> decide

/-- The texts of a series are no longer than the series. -/
theorem length_le_of_mem_intercalate {text : List Char} {texts : List (List Char)}
    (h : text ∈ texts) : text.length ≤ ([','].intercalate texts).length := by
  induction texts with
  | nil => cases h
  | cons first rest ih =>
    cases rest with
    | nil =>
      refine Nat.le_of_eq (congrArg List.length ?_)
      rw [List.mem_singleton.mp h, List.intercalate_singleton]
    | cons second more =>
      rw [List.intercalate_cons_cons, List.length_append, List.length_append]
      rcases List.mem_cons.mp h with rfl | hrest
      · omega
      · have hle := ih hrest
        omega

/-- There are no more texts in a series than characters. -/
theorem length_le_length_intercalate {texts : List (List Char)} (h : ∀ text ∈ texts, text ≠ []) :
    texts.length ≤ ([','].intercalate texts).length := by
  induction texts with
  | nil => exact Nat.zero_le _
  | cons first rest ih =>
    have hfirst := List.length_pos_iff.mpr (h first List.mem_cons_self)
    cases rest with
    | nil =>
      rw [List.intercalate_singleton]
      exact hfirst
    | cons second more =>
      have hrest := ih fun text htext => h text (List.mem_cons_of_mem first htext)
      rw [List.length_cons, List.intercalate_cons_cons, List.length_append, List.length_append,
        List.length_singleton]
      omega

/-- Fuel that is enough for the characters of a series is enough for its values. -/
theorem length_le_of_length_intercalate_le {values : List β} {fuel : Nat}
    (hne : ∀ value ∈ values, write value ≠ [])
    (hfuel : ([','].intercalate (values.map write)).length ≤ fuel) : values.length ≤ fuel := by
  have htexts : ∀ text ∈ values.map write, text ≠ [] := by
    intro text htext
    obtain ⟨value, hvalue, rfl⟩ := List.mem_map.mp htext
    exact hne value hvalue
  have hcount := length_le_length_intercalate htexts
  rw [List.length_map] at hcount
  exact Nat.le_trans hcount hfuel

/-- What a reader makes of the texts of values, whatever follows them. -/
def ReadsEach (item : Reader α) (write : β → List Char) (made : β → α) (values : List β) : Prop :=
  ∀ value ∈ values, Begins (write value) ∧
    ∀ rest, Ends rest → item (write value ++ rest) = .ok (made value, rest)

theorem skipBlanks_cons {c : Char} (h : isBlank c = false) (rest : List Char) :
    skipBlanks (c :: rest) = c :: rest := by
  rw [skipBlanks, List.dropWhile_cons, h]
  rfl

/-- Items are read one after another up to the closing mark. -/
theorem readItems_intercalate (hclose : Closes close) {first : β} {more : List β}
    (h : ReadsEach item write made (first :: more)) {fuel : Nat} (hfuel : more.length < fuel)
    (rest : List Char) :
    readItems close item fuel ([','].intercalate ((first :: more).map write) ++ close :: rest) =
      .ok ((first :: more).map made, rest) := by
  -- The first item is followed by the closing mark or by a comma, and either ends it.
  induction more generalizing first fuel with
  | nil =>
    obtain ⟨hbegins, hread⟩ := h first List.mem_cons_self
    obtain ⟨fuel, rfl⟩ := Nat.exists_eq_add_one.mpr hfuel
    rw [List.map_singleton, List.intercalate_singleton, readItems, hbegins.skipBlanks,
      hread _ (hclose.ends rest)]
    dsimp only [bind, Except.bind]
    rw [skipBlanks_cons hclose.isBlank_eq]
    exact if_pos rfl
  | cons second others ih =>
    obtain ⟨hbegins, hread⟩ := h first List.mem_cons_self
    obtain ⟨fuel, rfl⟩ := Nat.exists_eq_add_one.mpr (Nat.zero_lt_of_lt hfuel)
    have hrest := ih (fun value hvalue => h value (List.mem_cons_of_mem first hvalue))
      (Nat.lt_of_succ_lt_succ hfuel)
    rw [List.map_cons, List.map_cons, List.intercalate_cons_cons, ← List.map_cons,
      List.append_assoc, List.append_assoc, List.singleton_append, readItems, hbegins.skipBlanks,
      hread _ (ends_comma _)]
    dsimp only [bind, Except.bind]
    rw [skipBlanks_cons (by decide)]
    dsimp only
    rw [if_neg hclose.ne_comma, if_pos rfl, hrest]
    rfl

/-- A series is read up to its closing mark. -/
theorem readSeries_intercalate (hclose : Closes close) {values : List β}
    (h : ReadsEach item write made values) {fuel : Nat}
    (hfuel : ([','].intercalate (values.map write)).length ≤ fuel) (rest : List Char) :
    readSeries close item fuel ([','].intercalate (values.map write) ++ close :: rest) =
      .ok (values.map made, rest) := by
  cases values with
  | nil =>
    rw [List.map_nil, List.intercalate_nil, List.nil_append, readSeries,
      skipBlanks_cons hclose.isBlank_eq]
    exact if_pos rfl
  | cons first more =>
    have hcount := length_le_of_length_intercalate_le
      (fun value hvalue => (h value hvalue).1.ne_nil) hfuel
    have hitems := readItems_intercalate hclose h hcount rest
    have hbegins := (h first List.mem_cons_self).1
    obtain ⟨c, others, hfirst⟩ := List.exists_cons_of_ne_nil hbegins.ne_nil
    rw [hfirst] at hbegins
    have hne : c ≠ close := by
      have hmarks := hbegins.ne_close c rfl
      rcases hclose with rfl | rfl
      · exact hmarks.1
      · exact hmarks.2
    rw [List.map_cons, hfirst, List.intercalate_cons_cons_left, List.cons_append] at hitems ⊢
    rw [readSeries, skipBlanks_cons (hbegins.isBlank_eq c rfl)]
    dsimp only
    rw [if_neg hne]
    exact hitems

end Series

/-! ### Entries -/

section Entries

variable {σ β : Type} {entry : σ → Reader σ} {write : β → List Char} {state : List β → σ}

/-- What an entry's reader makes of the texts of values, with the state that the values before them
have led to. -/
def ReadsInTurn (entry : σ → Reader σ) (write : β → List Char) (state : List β → σ)
    (values : List β) : Prop :=
  ∀ before value after, values = before ++ value :: after → Begins (write value) ∧
    ∀ rest, Ends rest →
      entry (state before) (write value ++ rest) = .ok (state (before ++ [value]), rest)

/-- Entries are read one after another up to the closing brace. -/
theorem readEntries_intercalate {before : List β} {first : β} {more : List β}
    (h : ReadsInTurn entry write state (before ++ first :: more)) {fuel : Nat}
    (hfuel : more.length < fuel) (rest : List Char) :
    readEntries entry fuel (state before)
        ([','].intercalate ((first :: more).map write) ++ '\x7d' :: rest) =
      .ok (state (before ++ first :: more), rest) := by
  -- The induction moves the first value to those before it, which the state depends on.
  induction more generalizing before first fuel with
  | nil =>
    obtain ⟨hbegins, hread⟩ := h before first [] rfl
    obtain ⟨fuel, rfl⟩ := Nat.exists_eq_add_one.mpr hfuel
    rw [List.map_singleton, List.intercalate_singleton, readEntries, hbegins.skipBlanks,
      hread _ (Closes.ends (.inr rfl) rest)]
    dsimp only [bind, Except.bind]
    rw [skipBlanks_cons (by decide)]
    rfl
  | cons second others ih =>
    obtain ⟨hbegins, hread⟩ := h before first (second :: others) rfl
    obtain ⟨fuel, rfl⟩ := Nat.exists_eq_add_one.mpr (Nat.zero_lt_of_lt hfuel)
    have hsplit : before ++ first :: second :: others =
        (before ++ [first]) ++ second :: others := by simp
    rw [hsplit] at h ⊢
    rw [List.map_cons, List.map_cons, List.intercalate_cons_cons, ← List.map_cons,
      List.append_assoc, List.append_assoc, List.singleton_append, readEntries,
      hbegins.skipBlanks, hread _ (ends_comma _)]
    dsimp only [bind, Except.bind]
    rw [skipBlanks_cons (by decide)]
    exact ih h (Nat.lt_of_succ_lt_succ hfuel)

/-- An object is read up to its closing brace. -/
theorem readObject_intercalate {values : List β} (h : ReadsInTurn entry write state values)
    {fuel : Nat} (hfuel : ([','].intercalate (values.map write)).length ≤ fuel)
    (rest : List Char) :
    readObject fuel entry (state []) ([','].intercalate (values.map write) ++ '\x7d' :: rest) =
      .ok (state values, rest) := by
  cases values with
  | nil =>
    rw [List.map_nil, List.intercalate_nil, List.nil_append, readObject,
      skipBlanks_cons (by decide)]
    rfl
  | cons first more =>
    have hne : ∀ value ∈ first :: more, write value ≠ [] := by
      intro value hvalue
      obtain ⟨before, after, hvalues⟩ := List.mem_iff_append.mp hvalue
      exact (h before value after hvalues).1.ne_nil
    have hcount := length_le_of_length_intercalate_le hne hfuel
    have hall : ReadsInTurn entry write state ([] ++ first :: more) := h
    have hentries := readEntries_intercalate hall hcount rest
    have hbegins := (h [] first more rfl).1
    obtain ⟨c, others, hfirst⟩ := List.exists_cons_of_ne_nil hbegins.ne_nil
    rw [hfirst] at hbegins
    rw [List.map_cons, hfirst, List.intercalate_cons_cons_left, List.cons_append] at hentries ⊢
    rw [readObject, skipBlanks_cons (hbegins.isBlank_eq c rfl)]
    split
    · next heq =>
      exact absurd (List.cons.inj heq).1 (hbegins.ne_close c rfl).2
    · exact hentries

end Entries

end Ingress.Json
