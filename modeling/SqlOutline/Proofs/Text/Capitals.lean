import SqlOutline.Proofs.Text.LetterCase
import SqlOutline.Text.Quoted

set_option autoImplicit false

namespace SqlOutline

def capitals (text : List Char) : List Char :=
  text.map Char.toUpper

theorem capitals_cons (c : Char) (rest : List Char) : capitals (c :: rest) = c.toUpper :: capitals rest :=
  rfl

theorem capitals_append (front back : List Char) : capitals (front ++ back) = capitals front ++ capitals back :=
  List.map_append

theorem capital_cases (holds : Char → Char → Prop) (same : ∀ c, holds c c)
    (letters : ∀ n < 26, holds (Char.ofNat (97 + n)) (Char.ofNat (65 + n))) (c : Char) : holds c c.toUpper := by
  by_cases lower : c.isLower = true
  · have bounds := (is_lower_iff c).mp lower
    have small : c = Char.ofNat (97 + (c.toNat - 97)) := by
      rw [Nat.add_sub_cancel' bounds.1, Char.ofNat_toNat]
    have capital : ∀ n < 26, (Char.ofNat (97 + n)).toUpper = Char.ofNat (65 + n) := by decide
    have inside : c.toNat - 97 < 26 := by omega
    have letter := letters (c.toNat - 97) inside
    rw [← capital (c.toNat - 97) inside, ← small] at letter
    exact letter
  · rw [to_upper_of_not_lower c lower]
    exact same c

theorem capital_same {α : Type} (f : Char → α) (letters : ∀ n < 26, f (Char.ofNat (65 + n)) = f (Char.ofNat (97 + n)))
    (c : Char) : f c.toUpper = f c :=
  capital_cases (fun c d => f d = f c) (fun _ => rfl) letters c

theorem to_upper_to_upper (c : Char) : c.toUpper.toUpper = c.toUpper :=
  capital_same Char.toUpper (by decide) c

theorem to_lower_to_upper (c : Char) : c.toUpper.toLower = c.toLower :=
  capital_same Char.toLower (by decide) c

theorem to_upper_to_lower (c : Char) : c.toLower.toUpper = c.toUpper := by
  by_cases upper : c.isUpper = true
  · have bounds := (is_upper_iff c).mp upper
    have letters : ∀ n < 26, (Char.ofNat (65 + n)).toLower.toUpper = (Char.ofNat (65 + n)).toUpper := by decide
    have letter := letters (c.toNat - 65) (by omega)
    rwa [Nat.add_sub_cancel' bounds.1, Char.ofNat_toNat] at letter
  · rw [to_lower_of_not_upper c upper]

theorem is_lower_to_upper (c : Char) : c.toUpper.isLower = false := by
  by_cases lower : c.isLower = true
  · have bounds := (is_lower_iff c).mp lower
    have letters : ∀ n < 26, (Char.ofNat (97 + n)).toUpper.isLower = false := by decide
    have letter := letters (c.toNat - 97) (by omega)
    rwa [Nat.add_sub_cancel' bounds.1, Char.ofNat_toNat] at letter
  · rw [to_upper_of_not_lower c lower]
    exact Bool.eq_false_iff.mpr lower

theorem is_word_char_to_upper (c : Char) : isWordChar c.toUpper = isWordChar c :=
  capital_same isWordChar (by decide) c

theorem is_digit_to_upper (c : Char) : c.toUpper.isDigit = c.isDigit :=
  capital_same Char.isDigit (by decide) c

theorem to_upper_eq_iff (c symbol : Char) (plain : symbol.isAlpha = false) : c.toUpper = symbol ↔ c = symbol := by
  have letters : ∀ n < 26, (Char.ofNat (97 + n)).isAlpha = true ∧ (Char.ofNat (65 + n)).isAlpha = true := by decide
  refine capital_cases (fun c d => d = symbol ↔ c = symbol) (fun _ => Iff.rfl) (fun n inside => ?_) c
  constructor
  · rintro rfl
    rw [(letters n inside).2] at plain
    contradiction
  · rintro rfl
    rw [(letters n inside).1] at plain
    contradiction

theorem head_capitals (text : List Char) (symbol : Char) (plain : symbol.isAlpha = false) :
    (capitals text).head? = some symbol ↔ text.head? = some symbol := by
  rw [capitals, List.head?_map]
  cases text.head? with
  | none => simp
  | some c => simpa using to_upper_eq_iff c symbol plain

theorem take_while_capitals (member : Char → Bool) (same : ∀ c, member c.toUpper = member c) (text : List Char) :
    (capitals text).takeWhile member = capitals (text.takeWhile member) := by
  rw [capitals, List.takeWhile_map, show member ∘ Char.toUpper = member from funext same, capitals]

theorem drop_while_capitals (member : Char → Bool) (same : ∀ c, member c.toUpper = member c) (text : List Char) :
    (capitals text).dropWhile member = capitals (text.dropWhile member) := by
  rw [capitals, List.dropWhile_map, show member ∘ Char.toUpper = member from funext same, capitals]

theorem to_list_upper_case (text : String) : (upperCase text).toList = capitals text.toList :=
  String.toList_map

theorem upper_case_of_list (text : List Char) : upperCase (String.ofList text) = String.ofList (capitals text) := by
  rw [← String.toList_inj, to_list_upper_case, String.toList_ofList, String.toList_ofList]

theorem upper_case_upper_case (text : String) : upperCase (upperCase text) = upperCase text := by
  have same : Char.toUpper ∘ Char.toUpper = Char.toUpper := funext to_upper_to_upper
  rw [← String.toList_inj]
  simp only [upperCase, String.toList_map, List.map_map, same]

theorem fold_upper_case (text : String) : foldCase (upperCase text) = foldCase text := by
  have same : Char.toLower ∘ Char.toUpper = Char.toLower := funext to_lower_to_upper
  rw [same_case_iff, upperCase, String.toList_map, List.map_map, same]

theorem upper_case_fold (text : String) : upperCase (foldCase text) = upperCase text := by
  have same : Char.toUpper ∘ Char.toLower = Char.toUpper := funext to_upper_to_lower
  rw [← String.toList_inj]
  simp only [upperCase, foldCase, String.toList_map, List.map_map, same]

theorem upper_case_no_lower (text : String) : ∀ c ∈ (upperCase text).toList, c.isLower = false := by
  rw [to_list_upper_case]
  exact List.forall_mem_map.mpr fun c _ => is_lower_to_upper c

theorem eq_of_same_case (a b : String) (noLower : ∀ c ∈ a.toList, c.isLower = false)
    (noLowerOther : ∀ c ∈ b.toList, c.isLower = false) (same : foldCase a = foldCase b) : a = b := by
  calc a = upperCase (foldCase a) := by rw [upper_case_fold, upper_case_of_no_lower a noLower]
    _ = upperCase (foldCase b) := by rw [same]
    _ = b := by rw [upper_case_fold, upper_case_of_no_lower b noLowerOther]

theorem upper_case_append (a b : String) : upperCase (a ++ b) = upperCase a ++ upperCase b := by
  rw [← String.toList_inj]
  simp only [upperCase, String.toList_map, String.toList_append, List.map_append]

-- An escape shows a code point, so it is not the capital's escape; but letters are not escaped.
theorem escaped_to_upper (quote c : Char) (isQuote : quote = '"' ∨ quote = '\'') :
    capitals (escapedChar quote c.toUpper) = capitals (escapedChar quote c) := by
  refine capital_same (fun c => capitals (escapedChar quote c)) ?_ c
  rcases isQuote with rfl | rfl <;> decide +kernel

theorem quoted_by_capitals (quote : Char) (text : List Char) (isQuote : quote = '"' ∨ quote = '\'') :
    upperCase (quotedBy quote (capitals text)) = upperCase (quotedBy quote text) := by
  have bodies : capitals ((capitals text).flatMap (escapedChar quote)) = capitals (text.flatMap (escapedChar quote)) := by
    induction text with
    | nil => rfl
    | cons c text ih =>
        have first := escaped_to_upper quote c isQuote
        simp only [capitals, List.map_cons, List.flatMap_cons, List.map_append] at first ih ⊢
        rw [first, ih]
  simp only [capitals] at bodies
  simp only [quotedBy, upper_case_of_list, capitals, List.map_append, List.map_cons, bodies]

end SqlOutline
