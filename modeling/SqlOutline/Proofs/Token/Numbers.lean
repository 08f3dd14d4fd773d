import SqlOutline.Proofs.Text.LetterCase
import SqlOutline.Token.NumberSyntax

set_option autoImplicit false

namespace SqlOutline

def IsFraction (digit : Char → Bool) (part : List Char) : Prop :=
  part = [] ∨ ∃ digits, part = '.' :: digits ∧ ∀ c ∈ digits, digit c = true

def IsSigned (part : List Char) : Prop :=
  ∃ sign digits, part = sign ++ digits ∧ (sign = [] ∨ sign = ['+'] ∨ sign = ['-']) ∧ ∀ c ∈ digits, c.isDigit = true

-- The mark and a signed number, which may be empty, or nothing.
def IsExponent (part : List Char) : Prop :=
  part = [] ∨ ∃ mark signed, part = mark :: signed ∧ (mark = 'e' ∨ mark = 'E') ∧ IsSigned signed

def DecimalNumber (text : List Char) : Prop :=
  ∃ whole fraction exponent, text = whole ++ (fraction ++ exponent) ∧ whole ≠ [] ∧ (∀ c ∈ whole, c.isDigit = true) ∧
    IsFraction Char.isDigit fraction ∧ IsExponent exponent

-- The letter E is a digit here, so there is no exponent.
def HexNumber (text : List Char) : Prop :=
  ∃ mark whole fraction, text = '0' :: mark :: (whole ++ fraction) ∧ (mark = 'x' ∨ mark = 'X') ∧
    (∀ c ∈ whole, isHexDigit c = true) ∧ IsFraction isHexDigit fraction

def NumberText (text : String) : Prop :=
  DecimalNumber text.toList ∨ HexNumber text.toList

-- Neither part of a word nor a dot or a sign: no part of a number goes on with such a character.
def EndsDigits (rest : List Char) : Prop :=
  ∀ c ∈ rest.head?, isWordChar c = false ∧ c ∉ ['.', '+', '-']

theorem is_word_char_of_hex_digit (c : Char) (digit : isHexDigit c = true) : isWordChar c = true := by
  rw [isHexDigit, Bool.or_eq_true, Bool.or_eq_true] at digit
  rcases digit with (digit | lower) | upper
  · exact is_word_char_of_digit c digit
  · have bounds : 97 ≤ c.toNat ∧ c.toNat ≤ 102 := by simpa [Char.le_def, UInt32.le_iff_toNat_le] using lower
    exact is_word_char_of_letter c (.inr ((is_lower_iff c).mpr ⟨bounds.1, by omega⟩))
  · have bounds : 65 ≤ c.toNat ∧ c.toNat ≤ 70 := by simpa [Char.le_def, UInt32.le_iff_toNat_le] using upper
    exact is_word_char_of_letter c (.inl ((is_upper_iff c).mpr ⟨bounds.1, by omega⟩))

namespace NumberPart

theorem next_of_outside (part : NumberPart) (c : Char) (outside : isWordChar c = false) (notMark : c ∉ ['.', '+', '-']) :
    part.next? c = none := by
  have notHex : ¬ isHexDigit c = true := by
    intro digit
    rw [is_word_char_of_hex_digit c digit] at outside
    contradiction
  have notDigit : ¬ c.isDigit = true := by
    intro digit
    rw [is_word_char_of_digit c digit] at outside
    contradiction
  have different (d : Char) (member : isWordChar d = true) : c ≠ d := by
    rintro rfl
    rw [member] at outside
    contradiction
  have marks : c ≠ '.' ∧ c ≠ '+' ∧ c ≠ '-' := by simpa using notMark
  cases part <;>
    simp [next?, next?.afterWhole, notHex, notDigit, marks, different '0' (by decide), different 'x' (by decide),
      different 'X' (by decide), different 'e' (by decide), different 'E' (by decide)]

def continuedBy : NumberPart → List Char → Bool
  | _, [] => true
  | part, c :: rest =>
      match part.next? c with
      | none => false
      | some following => following.continuedBy rest

theorem continued_cons_of_some (part following : NumberPart) (c : Char) (rest : List Char)
    (found : part.next? c = some following) : part.continuedBy (c :: rest) = following.continuedBy rest := by
  rw [continuedBy, found]

theorem continued_cons_of_none (part : NumberPart) (c : Char) (rest : List Char) (stuck : part.next? c = none) :
    part.continuedBy (c :: rest) = false := by
  rw [continuedBy, stuck]

theorem members_of_continued (part : NumberPart) (text : List Char) (continued : part.continuedBy text = true) :
    ∀ c ∈ text, isWordChar c = true ∨ c ∈ ['.', '+', '-'] := by
  induction text generalizing part with
  | nil => nofun
  | cons c rest ih =>
      cases found : part.next? c with
      | none => rw [continued_cons_of_none part c rest found] at continued; contradiction
      | some following =>
          rw [continued_cons_of_some part following c rest found] at continued
          refine List.forall_mem_cons.mpr ⟨?_, ih following continued⟩
          by_cases member : isWordChar c = true
          · exact .inl member
          · refine .inr (Decidable.byContradiction fun notMark => ?_)
            rw [next_of_outside part c (Bool.eq_false_iff.mpr member) notMark] at found
            contradiction

theorem split_of_continued (part : NumberPart) (text rest : List Char) (continued : part.continuedBy text = true)
    (ends : EndsDigits rest) : part.split (text ++ rest) = (text, rest) := by
  induction text generalizing part with
  | nil =>
      cases rest with
      | nil => rfl
      | cons c rest =>
          obtain ⟨outside, notMark⟩ := ends c rfl
          simp [split, next_of_outside part c outside notMark]
  | cons c text ih =>
      cases found : part.next? c with
      | none => rw [continued_cons_of_none part c text found] at continued; contradiction
      | some following =>
          rw [continued_cons_of_some part following c text found] at continued
          simp [split, found, ih following continued]

section Parts

variable (part : NumberPart) (digit : Char → Bool) (stays : ∀ c, digit c = true → part.next? c = some part)

include stays

theorem continued_digits (digits tail : List Char) (members : ∀ c ∈ digits, digit c = true) :
    part.continuedBy (digits ++ tail) = part.continuedBy tail := by
  induction digits with
  | nil => rfl
  | cons c digits ih =>
      obtain ⟨first, others⟩ := List.forall_mem_cons.mp members
      rw [List.cons_append, continued_cons_of_some part part c _ (stays c first), ih others]

theorem exists_digits (text : List Char) (continued : part.continuedBy text = true) :
    ∃ digits tail, text = digits ++ tail ∧ (∀ c ∈ digits, digit c = true) ∧ (∀ c ∈ tail.head?, digit c = false) ∧
      part.continuedBy tail = true := by
  have whole := List.takeWhile_append_dropWhile (p := digit) (l := text)
  have members : ∀ c ∈ text.takeWhile digit, digit c = true := List.all_eq_true.mp List.all_takeWhile
  refine ⟨text.takeWhile digit, text.dropWhile digit, whole.symm, members, fun c first => ?_, ?_⟩
  · have outside := List.head?_dropWhile_not digit text
    rw [first] at outside
    exact outside
  · rw [← continued_digits part digit stays _ _ members, whole]
    exact continued

end Parts

theorem exponent_iff (text : List Char) : exponent.continuedBy text = true ↔ ∀ c ∈ text, c.isDigit = true := by
  induction text with
  | nil => simp [continuedBy]
  | cons c rest ih => cases digit : c.isDigit <;> simp [continuedBy, next?, digit, ih]

theorem signed_iff (text : List Char) : exponentMark.continuedBy text = true ↔ IsSigned text := by
  constructor
  · intro continued
    cases text with
    | nil => exact ⟨[], [], rfl, .inl rfl, nofun⟩
    | cons c rest =>
        by_cases starts : c.isDigit = true ∨ c = '+' ∨ c = '-'
        · have found : exponentMark.next? c = some .exponent := if_pos starts
          rw [continued_cons_of_some _ _ c rest found, exponent_iff] at continued
          rcases starts with digit | rfl | rfl
          · exact ⟨[], c :: rest, rfl, .inl rfl, List.forall_mem_cons.mpr ⟨digit, continued⟩⟩
          · exact ⟨['+'], rest, rfl, .inr (.inl rfl), continued⟩
          · exact ⟨['-'], rest, rfl, .inr (.inr rfl), continued⟩
        · rw [continued_cons_of_none exponentMark c rest (if_neg starts)] at continued
          contradiction
  · rintro ⟨sign, digits, rfl, isSign, members⟩
    have signed := (exponent_iff digits).mpr members
    rcases isSign with rfl | rfl | rfl
    · cases digits with
      | nil => rfl
      | cons c digits =>
          obtain ⟨first, others⟩ := List.forall_mem_cons.mp members
          have found : exponentMark.next? c = some .exponent := if_pos (.inl first)
          rw [List.nil_append, continued_cons_of_some _ _ c digits found]
          exact (exponent_iff digits).mpr others
    · exact signed
    · exact signed

theorem continued_exponent (part : NumberPart) (marks : ∀ c, c = 'e' ∨ c = 'E' → part.next? c = some .exponentMark)
    (text : List Char) (isExponent : IsExponent text) : part.continuedBy text = true := by
  rcases isExponent with rfl | ⟨mark, signed, rfl, isMark, isSigned⟩
  · rfl
  · rw [continued_cons_of_some _ _ mark signed (marks mark isMark)]
    exact (signed_iff signed).mpr isSigned

theorem fraction_iff (text : List Char) :
    fraction.continuedBy text = true ↔
      ∃ digits exponent, text = digits ++ exponent ∧ (∀ c ∈ digits, c.isDigit = true) ∧ IsExponent exponent := by
  have stays (c : Char) (digit : c.isDigit = true) : fraction.next? c = some fraction := if_pos digit
  constructor
  · intro continued
    obtain ⟨digits, tail, rfl, members, ends, further⟩ := exists_digits fraction Char.isDigit stays text continued
    refine ⟨digits, tail, rfl, members, ?_⟩
    cases tail with
    | nil => exact .inl rfl
    | cons c rest =>
        have notDigit : ¬ c.isDigit = true := Bool.eq_false_iff.mp (ends c rfl)
        by_cases isMark : c = 'e' ∨ c = 'E'
        · have found : fraction.next? c = some .exponentMark := by simp only [next?, if_neg notDigit, if_pos isMark]
          rw [continued_cons_of_some _ _ c rest found, signed_iff] at further
          exact .inr ⟨c, rest, rfl, isMark, further⟩
        · have stuck : fraction.next? c = none := by simp only [next?, if_neg notDigit, if_neg isMark]
          rw [continued_cons_of_none _ c rest stuck] at further
          exact absurd further Bool.false_ne_true
  · rintro ⟨digits, exponent, rfl, members, isExponent⟩
    rw [continued_digits fraction Char.isDigit stays digits exponent members]
    refine continued_exponent fraction (fun c isMark => ?_) exponent isExponent
    rcases isMark with rfl | rfl <;> rfl

theorem whole_iff (text : List Char) :
    whole.continuedBy text = true ↔
      ∃ digits fraction exponent, text = digits ++ (fraction ++ exponent) ∧ (∀ c ∈ digits, c.isDigit = true) ∧
        IsFraction Char.isDigit fraction ∧ IsExponent exponent := by
  have stays (c : Char) (digit : c.isDigit = true) : whole.next? c = some whole := if_pos digit
  constructor
  · intro continued
    obtain ⟨digits, tail, rfl, members, ends, further⟩ := exists_digits whole Char.isDigit stays text continued
    cases tail with
    | nil => exact ⟨digits, [], [], rfl, members, .inl rfl, .inl rfl⟩
    | cons c rest =>
        have notDigit : ¬ c.isDigit = true := Bool.eq_false_iff.mp (ends c rfl)
        by_cases isDot : c = '.'
        · subst isDot
          obtain ⟨places, exponent, rfl, arePlaces, isExponent⟩ := (fraction_iff rest).mp further
          exact ⟨digits, '.' :: places, exponent, rfl, members, .inr ⟨places, rfl, arePlaces⟩, isExponent⟩
        · by_cases isMark : c = 'e' ∨ c = 'E'
          · have found : whole.next? c = some .exponentMark := by
              simp only [next?, next?.afterWhole, if_neg notDigit, if_neg isDot, if_pos isMark]
            rw [continued_cons_of_some _ _ c rest found, signed_iff] at further
            exact ⟨digits, [], c :: rest, rfl, members, .inl rfl, .inr ⟨c, rest, rfl, isMark, further⟩⟩
          · have stuck : whole.next? c = none := by
              simp only [next?, next?.afterWhole, if_neg notDigit, if_neg isDot, if_neg isMark]
            rw [continued_cons_of_none _ c rest stuck] at further
            exact absurd further Bool.false_ne_true
  · rintro ⟨digits, fraction, exponent, rfl, members, isFraction, isExponent⟩
    rw [continued_digits whole Char.isDigit stays digits _ members]
    rcases isFraction with rfl | ⟨places, rfl, arePlaces⟩
    · refine continued_exponent whole (fun c isMark => ?_) exponent isExponent
      rcases isMark with rfl | rfl <;> rfl
    · exact (fraction_iff (places ++ exponent)).mpr ⟨places, exponent, rfl, arePlaces, isExponent⟩

theorem hex_fraction_iff (text : List Char) : hexFraction.continuedBy text = true ↔ ∀ c ∈ text, isHexDigit c = true := by
  induction text with
  | nil => simp [continuedBy]
  | cons c rest ih => cases digit : isHexDigit c <;> simp [continuedBy, next?, digit, ih]

theorem hex_whole_iff (text : List Char) :
    hexWhole.continuedBy text = true ↔
      ∃ digits fraction, text = digits ++ fraction ∧ (∀ c ∈ digits, isHexDigit c = true) ∧
        IsFraction isHexDigit fraction := by
  have stays (c : Char) (digit : isHexDigit c = true) : hexWhole.next? c = some hexWhole := if_pos digit
  constructor
  · intro continued
    obtain ⟨digits, tail, rfl, members, ends, further⟩ := exists_digits hexWhole isHexDigit stays text continued
    refine ⟨digits, tail, rfl, members, ?_⟩
    cases tail with
    | nil => exact .inl rfl
    | cons c rest =>
        have notDigit : ¬ isHexDigit c = true := Bool.eq_false_iff.mp (ends c rfl)
        by_cases isDot : c = '.'
        · subst isDot
          exact .inr ⟨rest, rfl, (hex_fraction_iff rest).mp further⟩
        · have stuck : hexWhole.next? c = none := by simp only [next?, if_neg notDigit, if_neg isDot]
          rw [continued_cons_of_none _ c rest stuck] at further
          exact absurd further Bool.false_ne_true
  · rintro ⟨digits, fraction, rfl, members, isFraction⟩
    rw [continued_digits hexWhole isHexDigit stays digits _ members]
    rcases isFraction with rfl | ⟨places, rfl, arePlaces⟩
    · rfl
    · exact (hex_fraction_iff places).mpr arePlaces

theorem leading_zero_iff (text : List Char) :
    leadingZero.continuedBy text = true ↔
      whole.continuedBy text = true ∨
        ∃ mark rest, text = mark :: rest ∧ (mark = 'x' ∨ mark = 'X') ∧ hexWhole.continuedBy rest = true := by
  cases text with
  | nil => simp [continuedBy]
  | cons c rest =>
      by_cases isMark : c = 'x' ∨ c = 'X'
      · have found : leadingZero.next? c = some .hexWhole := if_pos isMark
        have stuck : whole.next? c = none := by rcases isMark with rfl | rfl <;> rfl
        rw [continued_cons_of_some _ _ c rest found, continued_cons_of_none _ c rest stuck]
        constructor
        · exact fun further => .inr ⟨c, rest, rfl, isMark, further⟩
        · rintro (absent | ⟨_, _, ⟨⟩, _, further⟩)
          · contradiction
          · exact further
      · have same : leadingZero.next? c = whole.next? c := if_neg isMark
        simp [continuedBy, same, isMark]

theorem start_cons_iff (c : Char) (rest : List Char) :
    start.continuedBy (c :: rest) = true ↔
      (c.isDigit = true ∧ whole.continuedBy rest = true) ∨
        (c = '0' ∧ ∃ mark tail, rest = mark :: tail ∧ (mark = 'x' ∨ mark = 'X') ∧ hexWhole.continuedBy tail = true) := by
  by_cases zero : c = '0'
  · subst zero
    refine (leading_zero_iff rest).trans (or_congr ?_ ?_)
    · exact ⟨fun further => ⟨rfl, further⟩, And.right⟩
    · exact ⟨fun further => ⟨rfl, further⟩, And.right⟩
  · by_cases digit : c.isDigit = true
    · have found : start.next? c = some .whole := by simp only [next?, if_neg zero, if_pos digit]
      rw [continued_cons_of_some _ _ c rest found]
      simp [zero, digit]
    · have stuck : start.next? c = none := by simp only [next?, if_neg zero, if_neg digit]
      rw [continued_cons_of_none _ c rest stuck]
      simp [zero, digit]

theorem start_iff (text : List Char) :
    text ≠ [] ∧ start.continuedBy text = true ↔ DecimalNumber text ∨ HexNumber text := by
  constructor
  · rintro ⟨written, continued⟩
    cases text with
    | nil => contradiction
    | cons c rest =>
        rcases (start_cons_iff c rest).mp continued with ⟨digit, further⟩ | ⟨rfl, mark, tail, rfl, isMark, further⟩
        · obtain ⟨digits, fraction, exponent, rfl, members, isFraction, isExponent⟩ := (whole_iff rest).mp further
          exact .inl ⟨c :: digits, fraction, exponent, rfl, nofun, List.forall_mem_cons.mpr ⟨digit, members⟩,
            isFraction, isExponent⟩
        · obtain ⟨digits, fraction, rfl, members, isFraction⟩ := (hex_whole_iff tail).mp further
          exact .inr ⟨mark, digits, fraction, rfl, isMark, members, isFraction⟩
  · rintro (⟨digits, fraction, exponent, rfl, written, members, isFraction, isExponent⟩ |
      ⟨mark, digits, fraction, rfl, isMark, members, isFraction⟩)
    · cases digits with
      | nil => contradiction
      | cons c digits =>
          obtain ⟨digit, others⟩ := List.forall_mem_cons.mp members
          have further := (whole_iff _).mpr ⟨digits, fraction, exponent, rfl, others, isFraction, isExponent⟩
          exact ⟨nofun, (start_cons_iff c _).mpr (.inl ⟨digit, further⟩)⟩
    · have further := (hex_whole_iff _).mpr ⟨digits, fraction, rfl, members, isFraction⟩
      exact ⟨nofun, (start_cons_iff '0' _).mpr (.inr ⟨rfl, mark, _, rfl, isMark, further⟩)⟩

end NumberPart

theorem number_text_iff (text : String) :
    NumberText text ↔ text.toList ≠ [] ∧ NumberPart.start.continuedBy text.toList = true :=
  (NumberPart.start_iff text.toList).symm

theorem NumberText.exists_head {text : String} (number : NumberText text) :
    ∃ c rest, text.toList = c :: rest ∧ c.isDigit = true := by
  obtain ⟨written, continued⟩ := (number_text_iff text).mp number
  obtain ⟨c, rest, chars⟩ := List.exists_cons_of_ne_nil written
  rw [chars, NumberPart.start_cons_iff] at continued
  refine ⟨c, rest, chars, ?_⟩
  rcases continued with ⟨digit, _⟩ | ⟨rfl, _⟩
  · exact digit
  · rfl

instance (text : String) : Decidable (NumberText text) :=
  decidable_of_iff _ (number_text_iff text).symm

end SqlOutline
