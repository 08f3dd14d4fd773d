import Mathlib.Data.List.TakeWhile
import SqlOutline.Json.Read

set_option autoImplicit false

namespace SqlOutline.Json

-- How the escape of a character is read: only a control character without a letter of its own is numbered.
def unitOf (c : Char) : CodeUnit :=
  if c.toNat < 0x20 ∧ c ∉ ['\x08', '\x0c', '\n', '\r', '\t'] then .numbered c.toNat else .plain c

inductive Escape (c : Char) : List Char → CodeUnit → Prop where
  | simple (kind : Char) (notNumbered : kind ≠ 'u') (stands : simpleEscape? kind = some c) :
      Escape c ['\\', kind] (.plain c)
  | numbered (high low : Char) (plainHigh : high ≠ '"' ∧ high ≠ '\\') (plainLow : low ≠ '"' ∧ low ≠ '\\')
      (control : c.toNat < 0x20) (stands : hexUnit? '0' '0' high low = some c.toNat) :
      Escape c ['\\', 'u', '0', '0', high, low] (.numbered c.toNat)
  | itself (notQuote : c ≠ '"') (notBackslash : c ≠ '\\') (notControl : ¬ c.toNat < 0x20) : Escape c [c] (.plain c)

theorem escape_numbered (c : Char) (control : c.toNat < 0x20) :
    Escape c ['\\', 'u', '0', '0', Nat.digitChar (c.toNat / 16), Nat.digitChar (c.toNat % 16)] (.numbered c.toNat) := by
  have digits : ∀ n < 0x20, (Nat.digitChar (n / 16) ≠ '"' ∧ Nat.digitChar (n / 16) ≠ '\\') ∧
      (Nat.digitChar (n % 16) ≠ '"' ∧ Nat.digitChar (n % 16) ≠ '\\') ∧
      hexUnit? '0' '0' (Nat.digitChar (n / 16)) (Nat.digitChar (n % 16)) = some n := by decide
  obtain ⟨plainHigh, plainLow, stands⟩ := digits c.toNat control
  exact .numbered _ _ plainHigh plainLow control stands

theorem escaped_unit_escape (c : Char) : Escape c (escapedUnit c) (unitOf c) := by
  by_cases special : c ∈ ['"', '\\', '\x08', '\x0c', '\n', '\r', '\t']
  · simp only [List.mem_cons, List.not_mem_nil, or_false] at special
    rcases special with rfl | rfl | rfl | rfl | rfl | rfl | rfl
    · exact .simple '"' (by decide) rfl
    · exact .simple '\\' (by decide) rfl
    · exact .simple 'b' (by decide) rfl
    · exact .simple 'f' (by decide) rfl
    · exact .simple 'n' (by decide) rfl
    · exact .simple 'r' (by decide) rfl
    · exact .simple 't' (by decide) rfl
  · simp only [List.mem_cons, List.not_mem_nil, or_false, not_or] at special
    obtain ⟨notQuote, notBackslash, notBackspace, notFeed, notNewline, notReturn, notTab⟩ := special
    simp only [escapedUnit, unitOf, notQuote, notBackslash, notBackspace, notFeed, notNewline, notReturn, notTab,
      List.mem_cons, List.not_mem_nil, or_self, not_false_eq_true, and_true, if_false]
    by_cases control : c.toNat < 0x20
    · rw [if_pos control, if_pos control]
      exact escape_numbered c control
    · rw [if_neg control, if_neg control]
      exact .itself notQuote notBackslash control

section Literal

theorem literal_end_plain (c : Char) (rest : List Char) (plain : c ≠ '"' ∧ c ≠ '\\') :
    literalEnd? false (c :: rest) = (literalEnd? false rest).map fun result => (c :: result.1, result.2) := by
  have unescaped : (c == '\\') = false := beq_false_of_ne plain.2
  simp [literalEnd?, plain.1, unescaped]

theorem literal_end_escaped (c : Char) (rest : List Char) :
    literalEnd? false ('\\' :: c :: rest) =
      (literalEnd? false rest).map fun result => ('\\' :: c :: result.1, result.2) := by
  simp [literalEnd?, Option.map_map, Function.comp_def]

theorem Escape.literal_end {c : Char} {literal : List Char} {unit : CodeUnit} (escape : Escape c literal unit)
    (rest : List Char) :
    literalEnd? false (literal ++ rest) =
      (literalEnd? false rest).map fun result => (literal ++ result.1, result.2) := by
  cases escape with
  | simple kind notNumbered stands => exact literal_end_escaped kind rest
  | numbered high low plainHigh plainLow control stands =>
      have zero : '0' ≠ '"' ∧ '0' ≠ '\\' := by decide
      simp only [List.cons_append, List.nil_append, literal_end_escaped, literal_end_plain _ _ zero,
        literal_end_plain _ _ plainHigh, literal_end_plain _ _ plainLow, Option.map_map, Function.comp_def]
  | itself notQuote notBackslash notControl => exact literal_end_plain c rest ⟨notQuote, notBackslash⟩

theorem literal_end_escape (text rest : List Char) :
    literalEnd? false (escape text ++ '"' :: rest) = some (escape text, rest) := by
  induction text with
  | nil => simp [escape, literalEnd?]
  | cons c text ih =>
      have unit := (escaped_unit_escape c).literal_end (escape text ++ '"' :: rest)
      rw [ih] at unit
      rw [escape, List.flatMap_cons, List.append_assoc]
      exact unit

theorem Escape.code_units {c : Char} {literal : List Char} {unit : CodeUnit} (escape : Escape c literal unit)
    (rest : List Char) : codeUnits? (literal ++ rest) = (codeUnits? rest).map (unit :: ·) := by
  rw [codeUnits?.eq_def]
  cases escape with
  | simple kind notNumbered stands =>
      simp only [List.cons_append, List.nil_append, if_true, if_neg notNumbered, stands]
      cases codeUnits? rest <;> rfl
  | numbered high low plainHigh plainLow control stands =>
      simp only [List.cons_append, List.nil_append, if_true, stands]
      cases codeUnits? rest <;> rfl
  | itself notQuote notBackslash notControl =>
      simp only [List.cons_append, List.nil_append, if_neg notBackslash, if_neg notControl]
      cases codeUnits? rest <;> rfl

theorem code_units_escape (text : List Char) : codeUnits? (escape text) = some (text.map unitOf) := by
  induction text with
  | nil => simp [escape, codeUnits?]
  | cons c text ih =>
      have unit := (escaped_unit_escape c).code_units (escape text)
      rw [ih] at unit
      rw [escape, List.flatMap_cons]
      exact unit

theorem characters_numbered (unit : Nat) (rest : List CodeUnit) (control : unit < 0x20) :
    characters? (.numbered unit :: rest) = (characters? rest).map (Char.ofNat unit :: ·) := by
  have notHigh : isHighUnit unit = false := by simp [isHighUnit]; omega
  have notLow : isLowUnit unit = false := by simp [isLowUnit]; omega
  cases rest with
  | nil => simp [characters?, notHigh, notLow]
  | cons next rest => cases next <;> simp [characters?, notHigh, notLow]

theorem characters_unit_of (text : List Char) : characters? (text.map unitOf) = some text := by
  induction text with
  | nil => rfl
  | cons c text ih =>
      rw [List.map_cons, unitOf]
      split
      · rename_i numbered
        rw [characters_numbered _ _ numbered.1, ih, Char.ofNat_toNat]
        rfl
      · rw [characters?, ih]
        rfl

theorem unescape_escape (text : List Char) : unescape? (escape text) = some text := by
  rw [unescape?, code_units_escape]
  exact characters_unit_of text

theorem text_of_text (text : String) : text? (ofText text) = some text := by
  simp [text?, ofText, unescape_escape]

end Literal

section Number

theorem digits_value_to_digits (value : Nat) : digitsValue (Nat.toDigits 10 value) = value := by
  have same := Nat.ofDigitChars_ten_toDigits (n := value)
  rw [Nat.ofDigitChars_eq_foldl] at same
  simpa only [digitsValue, Nat.mul_comm] using same

theorem to_digits_digits (value : Nat) : ∀ c ∈ Nat.toDigits 10 value, c.isDigit = true :=
  fun _ member => Nat.isDigit_of_mem_toDigits (by decide) (by decide) member

theorem nat_of_nat (value : Nat) (bounded : value < UInt64.size) : nat? (ofNat value) = some value := by
  have digits := List.all_eq_true.mpr (to_digits_digits value)
  simp [nat?, ofNat, digits, digits_value_to_digits, bounded]

theorem to_digits_head (value : Nat) (positive : 0 < value) : (Nat.toDigits 10 value).head? ≠ some '0' := by
  induction value using Nat.base_induction 10 (by decide) with
  | single value small =>
      have digits : ∀ n < 10, 0 < n → Nat.digitChar n ≠ '0' := by decide
      rw [Nat.toDigits_of_lt_base small]
      simpa using digits value small positive
  | digit front last small more ih =>
      rw [← Nat.toDigits_append_toDigits (by decide) more small, List.head?_append,
        Option.or_of_isSome (List.isSome_head?.mpr Nat.toDigits_ne_nil)]
      exact ih more

theorem is_whole_to_digits (value : Nat) : isWhole (Nat.toDigits 10 value) = true := by
  have digits := List.all_eq_true.mpr (to_digits_digits value)
  rcases Nat.eq_zero_or_pos value with rfl | positive
  · rfl
  · simp [isWhole, digits, Nat.toDigits_ne_nil, to_digits_head value positive]

theorem is_number_to_digits (value : Nat) : isNumber (Nat.toDigits 10 value) = true := by
  have digits := to_digits_digits value
  have unsigned : (Nat.toDigits 10 value).head? ≠ some '-' := by
    intro sign
    exact absurd (digits '-' (List.mem_of_head? sign)) (by decide)
  have front := List.takeWhile_eq_self_iff.mpr digits
  have back := List.dropWhile_eq_nil_iff.mpr digits
  simp only [isNumber, if_neg unsigned, front, back, is_whole_to_digits value]
  rfl

end Number

end SqlOutline.Json
