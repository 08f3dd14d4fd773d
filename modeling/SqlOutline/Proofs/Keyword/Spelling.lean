import Mathlib.Data.List.Forall2
import SqlOutline.Proofs.Keyword.Lookup
import SqlOutline.Proofs.Sequence
import SqlOutline.Proofs.Text.LetterCase

set_option autoImplicit false

namespace SqlOutline

-- The same character, or the two cases of one of the letters from A to Z, where the small one comes 32 code points after
-- the capital.
inductive SameLetter (c d : Char) : Prop where
  | same (equal : c = d)
  | capital (upper : c.isUpper = true) (behind : d.toNat = c.toNat + 32)
  | small (upper : d.isUpper = true) (behind : c.toNat = d.toNat + 32)

def SameButCase (a b : String) : Prop :=
  List.Forall₂ SameLetter a.toList b.toList

theorem to_lower_of_behind (c d : Char) (upper : c.isUpper = true) (behind : d.toNat = c.toNat + 32) :
    c.toLower = d ∧ d.toLower = d := by
  have notUpper : ¬ d.isUpper = true := by
    rw [is_upper_iff] at upper ⊢
    omega
  exact ⟨Char.toNat_inj.mp ((to_nat_to_lower c upper).trans behind.symm), to_lower_of_not_upper d notUpper⟩

theorem same_letter_iff (c d : Char) : SameLetter c d ↔ c.toLower = d.toLower := by
  constructor
  · intro letter
    cases letter with
    | same equal => rw [equal]
    | capital upper behind =>
        obtain ⟨moved, kept⟩ := to_lower_of_behind c d upper behind
        rw [moved, kept]
    | small upper behind =>
        obtain ⟨moved, kept⟩ := to_lower_of_behind d c upper behind
        rw [moved, kept]
  · intro lower
    by_cases upper : c.isUpper = true
    · by_cases other : d.isUpper = true
      · have places : c.toNat + 32 = d.toNat + 32 := by rw [← to_nat_to_lower c upper, lower, to_nat_to_lower d other]
        exact .same (Char.toNat_inj.mp (Nat.add_right_cancel places))
      · rw [to_lower_of_not_upper d other] at lower
        exact .capital upper (lower ▸ to_nat_to_lower c upper)
    · rw [to_lower_of_not_upper c upper] at lower
      by_cases other : d.isUpper = true
      · exact .small other (lower ▸ to_nat_to_lower d other)
      · rw [to_lower_of_not_upper d other] at lower
        exact .same lower

theorem same_but_case_iff (a b : String) :
    SameButCase a b ↔ a.toList.map Char.toLower = b.toList.map Char.toLower := by
  have letters : SameLetter = fun c d => c.toLower = d.toLower := by
    funext c d
    exact propext (same_letter_iff c d)
  rw [← List.forall₂_eq_eq_eq, List.forall₂_map_left_iff, List.forall₂_map_right_iff, SameButCase, letters]

theorem SameLetter.ascii {c d : Char} (letter : SameLetter c d) (bound : d.toNat < 128) : c.toNat < 128 := by
  cases letter with
  | same equal => exact equal ▸ bound
  | capital upper behind => omega
  | small upper behind =>
      rw [is_upper_iff] at upper
      omega

theorem SameButCase.ascii {a b : String} (same : SameButCase a b) (bound : ∀ d ∈ b.toList, d.toNat < 128) :
    ∀ c ∈ a.toList, c.toNat < 128 := by
  rw [SameButCase] at same
  generalize a.toList = word, b.toList = other at same bound
  induction same with
  | nil => exact fun c member => absurd member List.not_mem_nil
  | cons letter _ ih =>
      rw [List.forall_mem_cons] at bound ⊢
      exact ⟨letter.ascii bound.1, ih bound.2⟩

namespace Keyword

theorem text_ascii (keyword : Keyword) : ∀ c ∈ keyword.text.toList, c.toNat < 128 := by
  refine forall_mem_of_all keyword.text.toList ?_
  cases keyword <;> decide +kernel

theorem of_string_spells (word : String) (keyword : Keyword) :
    ofString? word = some keyword ↔ SameButCase word keyword.text := by
  rw [of_string_iff, equal_ignoring_case_iff, same_case_iff, same_but_case_iff]

theorem spelled_unique (word : String) (keyword other : Keyword) (spells : SameButCase word keyword.text)
    (also : SameButCase word other.text) : keyword = other :=
  Option.some.inj (((of_string_spells word keyword).mpr spells).symm.trans ((of_string_spells word other).mpr also))

theorem spelled_at_index (word : String) (keyword : Keyword) (spells : SameButCase word keyword.text) :
    ∃ index, index? word = some index ∧ all[index]? = some keyword :=
  Option.bind_eq_some_iff.mp ((of_string_spells word keyword).mpr spells)

theorem index_spells (word : String) (index : Nat) (found : index? word = some index) :
    ∃ keyword, all[index]? = some keyword ∧ SameButCase word keyword.text := by
  obtain ⟨keyword, here, same⟩ := (index_iff word index).mp found
  exact ⟨keyword, here, (same_but_case_iff _ _).mpr ((same_case_iff _ _).mp same)⟩

theorem of_string_outside_ascii (word : String) (outside : ∃ c ∈ word.toList, 128 ≤ c.toNat) : ofString? word = none := by
  obtain ⟨c, member, high⟩ := outside
  refine Option.eq_none_iff_forall_ne_some.mpr fun keyword spelled => ?_
  have low := ((of_string_spells word keyword).mp spelled).ascii (text_ascii keyword) c member
  omega

theorem index_eq_scan (word : String) : index? word = (all.map text).findIdx? (equalIgnoringCase word) := by
  rw [index?, search_sorted_eq_scan foldedTexts folded_texts_ascending, foldedTexts, Array.findIdx?_map,
    Array.findIdx?_map]
  rfl

theorem of_string_eq_scan (word : String) :
    ofString? word = all.find? fun keyword => equalIgnoringCase word keyword.text := by
  rw [ofString?, index_eq_scan, Array.findIdx?_map, Array.find?_eq_bind_findIdx?_getElem?]
  rfl

theorem lookup_finds_spelled (word : String) :
    (∀ keyword : Keyword, ofString? word = some keyword ↔ SameButCase word keyword.text) ∧
      (∀ keyword other : Keyword, SameButCase word keyword.text → SameButCase word other.text → keyword = other) ∧
      (∀ keyword : Keyword, SameButCase word keyword.text →
        ∃ index, index? word = some index ∧ all[index]? = some keyword) ∧
      (∀ index : Nat, index? word = some index →
        ∃ keyword, all[index]? = some keyword ∧ SameButCase word keyword.text) ∧
      ((∃ c ∈ word.toList, 128 ≤ c.toNat) → ofString? word = none) ∧
      index? word = (all.map text).findIdx? (equalIgnoringCase word) ∧
      ofString? word = all.find? fun keyword => equalIgnoringCase word keyword.text :=
  ⟨of_string_spells word, spelled_unique word, spelled_at_index word, index_spells word, of_string_outside_ascii word,
    index_eq_scan word, of_string_eq_scan word⟩

-- If the letter case of all scripts counted, a long s would match an S, and the sign of Kelvin a K.
theorem lookup_finds_spelled_long_s :
    (SameButCase "asSert_Rows_MODIFIED" ASSERT_ROWS_MODIFIED.text ∧
      ofString? "asSert_Rows_MODIFIED" = some .ASSERT_ROWS_MODIFIED) ∧
    ((∃ c ∈ "ſelect".toList, 128 ≤ c.toNat) ∧ ofString? "ſelect" = none) ∧
    ((∃ c ∈ "LI\u212aE".toList, 128 ≤ c.toNat) ∧ ofString? "LI\u212aE" = none) := by
  have spelled : SameButCase "asSert_Rows_MODIFIED" ASSERT_ROWS_MODIFIED.text :=
    (same_but_case_iff _ _).mpr (by decide +kernel)
  have longS : ∃ c ∈ "ſelect".toList, 128 ≤ c.toNat := ⟨'ſ', by decide +kernel, by decide⟩
  have kelvin : ∃ c ∈ "LI\u212aE".toList, 128 ≤ c.toNat := ⟨'\u212a', by decide +kernel, by decide⟩
  obtain ⟨found, _⟩ := lookup_finds_spelled "asSert_Rows_MODIFIED"
  obtain ⟨_, _, _, _, absent, _⟩ := lookup_finds_spelled "ſelect"
  obtain ⟨_, _, _, _, missing, _⟩ := lookup_finds_spelled "LI\u212aE"
  exact ⟨⟨spelled, (found .ASSERT_ROWS_MODIFIED).mpr spelled⟩, ⟨longS, absent longS⟩, kelvin, missing kelvin⟩

end Keyword

end SqlOutline
