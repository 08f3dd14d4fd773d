import SqlOutline.Keyword.Lookup
import SqlOutline.Text.Alphanumeric

set_option autoImplicit false

namespace SqlOutline

theorem is_upper_iff (c : Char) : c.isUpper = true ↔ 65 ≤ c.toNat ∧ c.toNat ≤ 90 :=
  decide_eq_true_iff.trans (and_congr UInt32.le_iff_toNat_le UInt32.le_iff_toNat_le)

theorem is_lower_iff (c : Char) : c.isLower = true ↔ 97 ≤ c.toNat ∧ c.toNat ≤ 122 :=
  (Bool.and_eq_true _ _).to_iff.trans
    (and_congr (decide_eq_true_iff.trans UInt32.le_iff_toNat_le) (decide_eq_true_iff.trans UInt32.le_iff_toNat_le))

theorem is_word_char_of_letter (c : Char) (letter : c.isUpper = true ∨ c.isLower = true) : isWordChar c = true := by
  have bound : c.toNat < 0x80 := by
    rw [is_upper_iff, is_lower_iff] at letter
    omega
  have isAlpha : c.isAlpha = true := (Bool.or_eq_true _ _).mpr letter
  rw [is_word_char_of_ascii c bound, Char.isAlphanum, isAlpha]
  simp

theorem not_digit_of_letter (c : Char) (letter : c.isUpper = true ∨ c.isLower = true) : c.isDigit = false := by
  refine Bool.eq_false_iff.mpr fun digit => ?_
  have bounds : 48 ≤ c.toNat ∧ c.toNat ≤ 57 := Char.isDigit_iff_toNat.mp digit
  rw [is_upper_iff, is_lower_iff] at letter
  omega

theorem to_lower_of_not_upper (c : Char) (notUpper : ¬ c.isUpper = true) : c.toLower = c :=
  dif_neg fun bounds => notUpper (decide_eq_true bounds)

theorem to_upper_of_not_lower (c : Char) (notLower : ¬ c.isLower = true) : c.toUpper = c :=
  dif_neg fun bounds => notLower ((Bool.and_eq_true _ _).mpr ⟨decide_eq_true bounds.1, decide_eq_true bounds.2⟩)

theorem to_nat_to_lower (c : Char) (upper : c.isUpper = true) : c.toLower.toNat = c.toNat + 32 := by
  have bounds := (is_upper_iff c).mp upper
  have inside : c.toNat + 32 < 2 ^ 32 := by omega
  exact (congrArg Char.toNat (dif_pos (of_decide_eq_true upper))).trans (Nat.mod_eq_of_lt inside)

theorem is_lower_to_lower (c : Char) (upper : c.isUpper = true) : c.toLower.isLower = true := by
  have bounds := (is_upper_iff c).mp upper
  rw [is_lower_iff, to_nat_to_lower c upper]
  omega

theorem is_digit_to_lower (c : Char) : c.toLower.isDigit = c.isDigit := by
  by_cases upper : c.isUpper = true
  · rw [not_digit_of_letter c (.inl upper), not_digit_of_letter c.toLower (.inr (is_lower_to_lower c upper))]
  · rw [to_lower_of_not_upper c upper]

theorem is_word_char_to_lower (c : Char) : isWordChar c.toLower = isWordChar c := by
  by_cases upper : c.isUpper = true
  · rw [is_word_char_of_letter c (.inl upper), is_word_char_of_letter c.toLower (.inr (is_lower_to_lower c upper))]
  · rw [to_lower_of_not_upper c upper]

theorem same_case_iff (a b : String) : foldCase a = foldCase b ↔ a.toList.map Char.toLower = b.toList.map Char.toLower := by
  rw [← String.toList_inj, foldCase, foldCase, String.toList_map, String.toList_map]

theorem upper_case_of_no_lower (text : String) (noLower : ∀ c ∈ text.toList, c.isLower = false) : upperCase text = text := by
  have unchanged : ∀ c ∈ text.toList, c.toUpper = id c := by
    intro c member
    exact to_upper_of_not_lower c (Bool.eq_false_iff.mp (noLower c member))
  apply String.toList_inj.mp
  rw [upperCase, String.toList_map, List.map_congr_left unchanged, List.map_id]

end SqlOutline
