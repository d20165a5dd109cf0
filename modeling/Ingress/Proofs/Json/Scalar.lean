import Mathlib.Data.List.Basic
import Ingress.Json.Outline
import Ingress.Proofs.Json.Compact

/-!
# Strings and numbers that are read back

A string is read back from its text, and passed over in it, whatever characters it holds
(`readString_escapedCharacters`, `skipString_escapedCharacters`), and a whole number of 64 bits is
read back from its digits (`readNumber_toString`).
-/

namespace Ingress.Json

/-! ### Strings -/

/-- How the text of a character stands for it. -/
inductive Escapes (c : Char) : List Char → Prop where
  /-- By a letter behind a backslash. -/
  | short (letter : Char) (hne : letter ≠ 'u') (h : shortEscape? letter = some c) :
    Escapes c ['\\', letter]
  /-- By the number of a control character. -/
  | unit (high low : Char) (h : codeUnit? '0' '0' high low = some c.toNat)
    (hcontrol : c.toNat < 32) : Escapes c ['\\', 'u', '0', '0', high, low]
  /-- By itself. -/
  | plain (hquote : c ≠ '"') (hbackslash : c ≠ '\\') (hcontrol : ¬ c < ' ') : Escapes c [c]

theorem codeUnit?_hexCharacter : ∀ n < 32,
    codeUnit? '0' '0' (hexCharacter (n / 16)) (hexCharacter (n % 16)) = some n := by
  decide

theorem escapes (c : Char) : Escapes c (escaped c).toList := by
  unfold escaped
  split
  · exact .short '"' (by decide) rfl
  · exact .short '\\' (by decide) rfl
  · exact .short 'b' (by decide) rfl
  · exact .short 'f' (by decide) rfl
  · exact .short 'n' (by decide) rfl
  · exact .short 'r' (by decide) rfl
  · exact .short 't' (by decide) rfl
  · next hquote hbackslash _ _ _ _ _ =>
    split
    · next hcontrol =>
      have hlt : c.toNat < 32 := hcontrol
      rw [String.toList_ofList]
      exact .unit _ _ (codeUnit?_hexCharacter c.toNat hlt) hlt
    · next hcontrol =>
      rw [Char.toString_eq_singleton, String.toList_singleton]
      exact .plain hquote hbackslash hcontrol

variable {fuel : Nat}

/-- A control character is its own code unit. -/
theorem readUnicodeEscape_unit {c high low : Char} (h : codeUnit? '0' '0' high low = some c.toNat)
    (hcontrol : c.toNat < 32) (rest : List Char) :
    readUnicodeEscape ('0' :: '0' :: high :: low :: rest) = .ok (c, rest) := by
  have hunit : readCodeUnit ('0' :: '0' :: high :: low :: rest) = .ok (c.toNat, rest) := by
    rw [readCodeUnit, h]
  unfold readUnicodeEscape
  rw [hunit]
  dsimp only [bind, Except.bind]
  rw [if_pos (.inl (by omega)), Char.ofNat_toNat]
  rfl

theorem readCharacters_escaped (c : Char) (text : List Char) :
    readCharacters (fuel + 1) ((escaped c).toList ++ text) =
      (readCharacters fuel text).map fun (characters, rest) => (c :: characters, rest) := by
  have hcases := escapes c
  generalize (escaped c).toList = written at hcases ⊢
  cases hcases with
  | short letter hne h =>
    have hescape : readEscape (letter :: text) = .ok (c, text) := by
      unfold readEscape
      split
      · next heq =>
        cases heq
        exact absurd rfl hne
      · next heq =>
        cases heq
        rw [h]
      · next heq => cases heq
    rw [List.cons_append, List.singleton_append, readCharacters, hescape]
    rfl
  | unit high low h hcontrol =>
    have hescape : readEscape ('u' :: '0' :: '0' :: high :: low :: text) = .ok (c, text) :=
      readUnicodeEscape_unit h hcontrol text
    simp only [List.cons_append, List.nil_append]
    rw [readCharacters, hescape]
    rfl
  | plain hquote hbackslash hcontrol =>
    rw [List.singleton_append, readCharacters, if_neg hcontrol]
    · rfl
    · exact hquote
    · exact hbackslash

theorem skipString_escaped (c : Char) (text : List Char) :
    skipString (fuel + 1) ((escaped c).toList ++ text) = skipString fuel text := by
  have hcases := escapes c
  generalize (escaped c).toList = written at hcases ⊢
  cases hcases with
  | short letter hne h =>
    have hescape : skipEscape (letter :: text) = .ok ((), text) := by
      rw [skipEscape, h]
      · rfl
      · exact hne
    rw [List.cons_append, List.singleton_append, skipString, hescape]
    rfl
  | unit high low h _ =>
    have hescape : skipEscape ('u' :: '0' :: '0' :: high :: low :: text) = .ok ((), text) := by
      rw [skipEscape, readCodeUnit, h]
      rfl
    simp only [List.cons_append, List.nil_append]
    rw [skipString, hescape]
    rfl
  | plain hquote hbackslash hcontrol =>
    rw [List.singleton_append, skipString, if_neg hcontrol]
    · exact hquote
    · exact hbackslash

/-- A text with quotes around it, as it stands before others. -/
theorem toList_quoted_append (text : String) (rest : List Char) : (quoted text).toList ++ rest =
    '"' :: (escapedCharacters text.toList ++ '"' :: rest) := by
  rw [toList_quoted, List.cons_append, List.append_assoc, List.singleton_append]

theorem readCharacters_escapedCharacters {characters : List Char} (hfuel : characters.length < fuel)
    (rest : List Char) :
    readCharacters fuel (escapedCharacters characters ++ '"' :: rest) =
      .ok (characters, rest) := by
  induction characters generalizing fuel with
  | nil =>
    obtain ⟨fuel, rfl⟩ := Nat.exists_eq_add_one.mpr hfuel
    rfl
  | cons c more ih =>
    obtain ⟨fuel, rfl⟩ := Nat.exists_eq_add_one.mpr (Nat.zero_lt_of_lt hfuel)
    rw [escapedCharacters_cons, List.append_assoc, readCharacters_escaped,
      ih (Nat.lt_of_succ_lt_succ hfuel)]
    rfl

theorem skipString_escapedCharacters {characters : List Char} (hfuel : characters.length < fuel)
    (rest : List Char) :
    skipString fuel (escapedCharacters characters ++ '"' :: rest) =
      .ok ((), rest) := by
  induction characters generalizing fuel with
  | nil =>
    obtain ⟨fuel, rfl⟩ := Nat.exists_eq_add_one.mpr hfuel
    rfl
  | cons c more ih =>
    obtain ⟨fuel, rfl⟩ := Nat.exists_eq_add_one.mpr (Nat.zero_lt_of_lt hfuel)
    rw [escapedCharacters_cons, List.append_assoc, skipString_escaped,
      ih (Nat.lt_of_succ_lt_succ hfuel)]

/-- A string is not shorter as it is written. -/
theorem length_lt_length_quoted (text : String) :
    text.toList.length < (quoted text).toList.length := by
  have hinner (characters : List Char) :
      characters.length ≤ (escapedCharacters characters).length := by
    induction characters with
    | nil => exact Nat.zero_le _
    | cons c rest ih =>
      have hone : 1 ≤ (escaped c).toList.length := by
        have hcases := escapes c
        generalize (escaped c).toList = written at hcases ⊢
        cases hcases <;> exact Nat.le_add_left 1 _
      rw [escapedCharacters_cons, List.length_append, List.length_cons]
      omega
  have hmarks := hinner text.toList
  rw [toList_quoted, List.length_cons, List.length_append, List.length_singleton]
  omega

/-- A string is read from what follows its opening quote. -/
theorem readString_escapedCharacters {text : String} (hfuel : (quoted text).toList.length ≤ fuel)
    (rest : List Char) :
    readString fuel (escapedCharacters text.toList ++ '"' :: rest) =
      .ok (text, rest) := by
  have hlength := length_lt_length_quoted text
  unfold readString
  rw [readCharacters_escapedCharacters (Nat.lt_of_lt_of_le hlength hfuel)]
  exact congrArg (fun read => Except.ok (read, rest)) String.ofList_toList

/-! ### Whole numbers -/

/-- A value ends before nothing, a comma and a closing mark. -/
def Ends (rest : List Char) : Prop :=
  ∀ c ∈ rest.head?, c = ',' ∨ c = ']' ∨ c = '\x7d'

theorem Ends.isDigit_eq_false {rest : List Char} (h : Ends rest) :
    ∀ c ∈ rest.head?, c.isDigit = false := by
  intro c hc
  rcases h c hc with rfl | rfl | rfl <;> rfl

theorem readDigits_append (fault : Fault) {digits rest : List Char}
    (hdigits : ∀ c ∈ digits, c.isDigit = true) (hne : digits ≠ []) (hrest : Ends rest) :
    readDigits fault (digits ++ rest) = .ok (digits, rest) := by
  have htaken : (digits ++ rest).takeWhile Char.isDigit = digits := by
    rw [List.takeWhile_append_of_pos hdigits]
    cases rest with
    | nil => exact List.append_nil digits
    | cons c more =>
      rw [List.takeWhile_cons, hrest.isDigit_eq_false c rfl]
      exact List.append_nil digits
  have hleft : (digits ++ rest).dropWhile Char.isDigit = rest := by
    rw [List.dropWhile_append_of_pos hdigits]
    cases rest with
    | nil => rfl
    | cons c more =>
      rw [List.dropWhile_cons, hrest.isDigit_eq_false c rfl]
      rfl
  obtain ⟨first, others, rfl⟩ := List.exists_cons_of_ne_nil hne
  unfold readDigits
  rw [htaken, hleft]

theorem isDigit_of_mem_toDigits {n : Nat} : ∀ c ∈ Nat.toDigits 10 n, c.isDigit = true :=
  fun _ => Nat.isDigit_of_mem_toDigits (by decide) (by decide)

/-- Only zero is written with a leading zero. -/
theorem head?_toDigits_ne {n : Nat} (h : 0 < n) : (Nat.toDigits 10 n).head? ≠ some '0' := by
  induction n using Nat.strongRecOn with
  | ind n ih =>
    rcases Nat.lt_or_ge n 10 with hsmall | hlarge
    · rw [Nat.toDigits_of_lt_base hsmall, List.head?_cons, Ne, Option.some.injEq,
        Nat.digitChar_eq_zero]
      omega
    · rw [Nat.toDigits_of_base_le (by decide) hlarge,
        List.head?_append_of_ne_nil _ Nat.toDigits_ne_nil]
      exact ih (n / 10) (by omega) (by omega)

theorem readWhole_toDigits (fault : Fault) (n : Nat) {rest : List Char} (hrest : Ends rest) :
    readWhole fault (Nat.toDigits 10 n ++ rest) = .ok (Nat.toDigits 10 n, rest) := by
  rcases Nat.eq_zero_or_pos n with rfl | hpos
  · have hstop : rest.head?.any Char.isDigit = false := by
      cases hhead : rest.head? with
      | none => rfl
      | some c => exact hrest.isDigit_eq_false c hhead
    rw [Nat.toDigits_zero, List.singleton_append, readWhole, hstop]
    rfl
  · have hread := readDigits_append fault isDigit_of_mem_toDigits
      (Nat.toDigits_ne_nil (n := n)) hrest
    have hzero := head?_toDigits_ne hpos
    obtain ⟨first, others, hdigits⟩ := List.exists_cons_of_ne_nil
      (Nat.toDigits_ne_nil (n := n) (b := 10))
    rw [hdigits] at hread hzero ⊢
    unfold readWhole
    split
    · next heq =>
      cases heq
      exact absurd rfl hzero
    · exact hread

/-- There is neither a fraction nor an exponent where a value ends. -/
theorem readFraction_of_ends (fault : Fault) {rest : List Char} (hrest : Ends rest) :
    readFraction fault rest = .ok ([], rest) := by
  unfold readFraction
  split
  · rcases hrest '.' rfl with h | h | h <;> cases h
  · rfl

theorem readExponent_of_ends (fault : Fault) {rest : List Char} (hrest : Ends rest) :
    readExponent fault rest = .ok (none, rest) := by
  unfold readExponent
  split
  · rcases hrest 'e' rfl with h | h | h <;> cases h
  · rcases hrest 'E' rfl with h | h | h <;> cases h
  · rfl

/-- A number behind its sign, if it has one. -/
def readUnsigned (fault : Fault) (negative : Bool) : Reader Numeral := fun text => do
  let (whole, rest) ← readWhole fault text
  let (fraction, rest) ← readFraction fault rest
  let (exponent, rest) ← readExponent fault rest
  return ({ negative, whole, fraction, exponent }, rest)

theorem readNumeral_minus (fault : Fault) (text : List Char) :
    readNumeral fault ('-' :: text) = readUnsigned fault true text := rfl

theorem readNumeral_of_ne (fault : Fault) {c : Char} (h : c ≠ '-') (text : List Char) :
    readNumeral fault (c :: text) = readUnsigned fault false (c :: text) := by
  unfold readNumeral
  split
  · next heq =>
    split at heq
    · next hminus =>
      cases hminus
      exact absurd rfl h
    · cases heq
      rfl

/-- Of a whole number only digits are read. -/
theorem readUnsigned_toDigits (fault : Fault) (negative : Bool) (n : Nat) {rest : List Char}
    (hrest : Ends rest) : readUnsigned fault negative (Nat.toDigits 10 n ++ rest) =
      .ok ({ negative, whole := Nat.toDigits 10 n, fraction := [], exponent := none }, rest) := by
  unfold readUnsigned
  rw [readWhole_toDigits fault n hrest]
  dsimp only [bind, Except.bind]
  rw [readFraction_of_ends fault hrest]
  dsimp only
  rw [readExponent_of_ends fault hrest]
  rfl

theorem ofDigits_toDigits (n : Nat) : ofDigits (Nat.toDigits 10 n) = n := by
  have hdigits := Nat.ofDigitChars_toDigits (b := 10) (n := n) (by decide) (by decide)
  unfold Nat.ofDigitChars at hdigits
  unfold ofDigits
  simpa only [Nat.mul_comm, digitValue] using hdigits

/-- A whole number that 64 bits hold, by its digits. -/
theorem integer?_eq (negative : Bool) (n : Nat) :
    Numeral.integer? { negative, whole := Nat.toDigits 10 n, fraction := [], exponent := none } =
      if negative then if 0 < n ∧ n ≤ 9223372036854775808 then some (-n : Int) else none
      else if n < 18446744073709551616 then some n else none := by
  unfold Numeral.integer?
  dsimp only
  rw [ofDigits_toDigits, if_neg (by decide)]

theorem toList_toString_ofNat (n : Nat) : (toString (n : Int)).toList = Nat.toDigits 10 n :=
  Nat.toList_repr

theorem toList_toString_negSucc (n : Nat) :
    (toString (Int.negSucc n)).toList = '-' :: Nat.toDigits 10 (n + 1) := by
  have hminus : "-".toList = ['-'] := by decide
  change ("-" ++ (n + 1).repr).toList = _
  rw [String.toList_append, hminus, Nat.toList_repr]
  rfl

theorem readNumeral_toDigits (fault : Fault) (n : Nat) {rest : List Char} (hrest : Ends rest) :
    readNumeral fault (Nat.toDigits 10 n ++ rest) =
      .ok ({ negative := false, whole := Nat.toDigits 10 n, fraction := [], exponent := none },
        rest) := by
  have hread := readUnsigned_toDigits fault false n hrest
  have hdigit := isDigit_of_mem_toDigits (n := n)
  obtain ⟨first, others, hdigits⟩ := List.exists_cons_of_ne_nil
    (Nat.toDigits_ne_nil (n := n) (b := 10))
  rw [hdigits] at hread hdigit ⊢
  have hne : first ≠ '-' := by
    rintro rfl
    cases hdigit _ List.mem_cons_self
  rw [List.cons_append, readNumeral_of_ne fault hne]
  exact hread

/-- A number of which a whole number is read. -/
theorem readNumber_of_integer? {text rest : List Char} {numeral : Numeral} {value : Int}
    (hread : readNumeral .truncated text = .ok (numeral, rest))
    (hvalue : numeral.integer? = some value) : readNumber text = .ok (.integer value, rest) := by
  unfold readNumber
  rw [hread]
  dsimp only [bind, Except.bind]
  rw [hvalue]
  rfl

/-- A whole number of 64 bits is read from its text. -/
theorem readNumber_toString {value : Int} (hleast : -9223372036854775808 ≤ value)
    (hgreatest : value ≤ 9223372036854775807) {rest : List Char} (hrest : Ends rest) :
    readNumber ((toString value).toList ++ rest) = .ok (.integer value, rest) := by
  cases value with
  | ofNat n =>
    rw [Int.ofNat_eq_natCast] at hgreatest ⊢
    rw [toList_toString_ofNat]
    refine readNumber_of_integer? (readNumeral_toDigits _ n hrest) ?_
    rw [integer?_eq, if_neg Bool.false_ne_true, if_pos (by omega)]
  | negSucc n =>
    rw [toList_toString_negSucc]
    refine readNumber_of_integer? ((readNumeral_minus _ _).trans
      (readUnsigned_toDigits _ true (n + 1) hrest)) ?_
    rw [integer?_eq, if_pos rfl, if_pos (by omega), Int.negSucc_eq]
    rfl

end Ingress.Json
