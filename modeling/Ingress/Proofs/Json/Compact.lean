import Ingress.Json.Compact

/-!
# The characters of a document's text

A document's text is put together from the texts of its parts: a container has its items or fields
between commas and its marks around them.
-/

namespace Ingress.Json

/-- What stands for characters between the quotes of a string. -/
def escapedCharacters (characters : List Char) : List Char :=
  characters.flatMap fun c => (escaped c).toList

theorem escapedCharacters_cons (c : Char) (rest : List Char) :
    escapedCharacters (c :: rest) = (escaped c).toList ++ escapedCharacters rest :=
  List.flatMap_cons

theorem quoted_eq (text : String) :
    quoted text = text.toList.foldl (fun out c => out ++ escaped c) "\"" ++ "\"" := by
  rw [quoted, String.foldl_eq_foldl_toList]

theorem toList_quoted (text : String) : (quoted text).toList =
    '"' :: (escapedCharacters text.toList ++ ['"']) := by
  have hfold (out : String) (characters : List Char) :
      (characters.foldl (fun out c => out ++ escaped c) out).toList =
        out.toList ++ escapedCharacters characters := by
    induction characters generalizing out with
    | nil => simp [escapedCharacters]
    | cons c rest ih => simp [ih, escapedCharacters_cons]
  have hmark : "\"".toList = ['"'] := by decide
  rw [quoted_eq, String.toList_append, hfold, hmark]
  rfl

theorem itemTokens_cons_cons (item second : Json) (more : List Json) (rest : List String) :
    itemTokens (item :: second :: more) rest =
      item.tokens ("," :: itemTokens (second :: more) rest) := by
  rw [itemTokens]
  exact nofun

theorem fieldTokens_cons_cons (key : String) (value : Json) (second : String × Json)
    (more : List (String × Json)) (rest : List String) :
    fieldTokens ((key, value) :: second :: more) rest =
      quoted key :: ":" :: value.tokens ("," :: fieldTokens (second :: more) rest) := by
  rw [fieldTokens]
  exact nofun

mutual

theorem tokens_append : ∀ (document : Json) (rest : List String),
    document.tokens rest = document.tokens [] ++ rest
  | .null, _ | .bool true, _ | .bool false, _ | .integer _, _ | .real _, _ | .string _, _ => rfl
  | .array items, rest => by
    unfold tokens
    rw [itemTokens_append items ("]" :: rest), itemTokens_append items ["]"]]
    simp
  | .object fields, rest => by
    unfold tokens
    rw [fieldTokens_append fields ("\x7d" :: rest), fieldTokens_append fields ["\x7d"]]
    simp

theorem itemTokens_append : ∀ (items : List Json) (rest : List String),
    itemTokens items rest = itemTokens items [] ++ rest
  | [], _ => rfl
  | [item], rest => tokens_append item rest
  | item :: second :: more, rest => by
    rw [itemTokens_cons_cons, itemTokens_cons_cons, tokens_append item,
      itemTokens_append (second :: more) rest,
      tokens_append item ("," :: itemTokens (second :: more) [])]
    simp

theorem fieldTokens_append : ∀ (fields : List (String × Json)) (rest : List String),
    fieldTokens fields rest = fieldTokens fields [] ++ rest
  | [], _ => rfl
  | [(_, value)], rest => by
    unfold fieldTokens
    rw [tokens_append value]
    rfl
  | (_, value) :: second :: more, rest => by
    rw [fieldTokens_cons_cons, fieldTokens_cons_cons, tokens_append value,
      fieldTokens_append (second :: more) rest,
      tokens_append value ("," :: fieldTokens (second :: more) [])]
    simp

end

/-- The characters of a document's text. -/
def characters (document : Json) : List Char :=
  document.compact.toList

theorem characters_eq (document : Json) :
    document.characters = (document.tokens []).flatMap String.toList :=
  String.toList_join

/-- The characters of a field: a key, a colon and a value. -/
def fieldCharacters (field : String × Json) : List Char :=
  (quoted field.1).toList ++ ':' :: field.2.characters

theorem flatMap_itemTokens (items : List Json) :
    (itemTokens items []).flatMap String.toList = [','].intercalate (items.map characters) := by
  have hcomma : ",".toList = [','] := by decide
  induction items with
  | nil => rfl
  | cons item rest ih =>
    cases rest with
    | nil =>
      rw [List.map_singleton, List.intercalate_singleton, characters_eq]
      rfl
    | cons second more =>
      rw [List.map_cons, List.map_cons, List.intercalate_cons_cons, ← List.map_cons, ← ih,
        characters_eq, itemTokens_cons_cons, tokens_append]
      simp [hcomma]

theorem flatMap_fieldTokens (fields : List (String × Json)) :
    (fieldTokens fields []).flatMap String.toList =
      [','].intercalate (fields.map fieldCharacters) := by
  have hcomma : ",".toList = [','] := by decide
  have hcolon : ":".toList = [':'] := by decide
  induction fields with
  | nil => rfl
  | cons field rest ih =>
    obtain ⟨key, value⟩ := field
    cases rest with
    | nil =>
      rw [List.map_singleton, List.intercalate_singleton, fieldCharacters, characters_eq]
      simp [fieldTokens, hcolon]
    | cons second more =>
      rw [List.map_cons, List.map_cons, List.intercalate_cons_cons, ← List.map_cons, ← ih,
        fieldCharacters, characters_eq, fieldTokens_cons_cons, tokens_append]
      simp [hcomma, hcolon]

theorem characters_string (text : String) : (string text).characters = (quoted text).toList := by
  rw [characters_eq]
  simp [tokens]

theorem characters_integer (value : Int) :
    (integer value).characters = (toString value).toList := by
  rw [characters_eq]
  simp [tokens]

theorem characters_bool (value : Bool) : (bool value).characters =
    if value then ['t', 'r', 'u', 'e'] else ['f', 'a', 'l', 's', 'e'] := by
  cases value <;> decide

theorem characters_null : null.characters = ['n', 'u', 'l', 'l'] := by
  decide

theorem characters_array (items : List Json) : (array items).characters =
    '[' :: ([','].intercalate (items.map characters) ++ [']']) := by
  have hopen : "[".toList = ['['] := by decide
  have hclose : "]".toList = [']'] := by decide
  rw [characters_eq, tokens, itemTokens_append, ← flatMap_itemTokens]
  simp [hopen, hclose]

theorem characters_object (fields : List (String × Json)) : (object fields).characters =
    '\x7b' :: ([','].intercalate (fields.map fieldCharacters) ++ ['\x7d']) := by
  have hopen : "\x7b".toList = ['\x7b'] := by decide
  have hclose : "\x7d".toList = ['\x7d'] := by decide
  rw [characters_eq, tokens, fieldTokens_append, ← flatMap_fieldTokens]
  simp [hopen, hclose]

end Ingress.Json
