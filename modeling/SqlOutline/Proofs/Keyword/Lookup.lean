import SqlOutline.Keyword.Lookup

set_option autoImplicit false

namespace SqlOutline

theorem search_sorted_sound (table : Array String) (target : String) (low high index : Nat)
    (found : searchSorted table target low high = some index) : table[index]? = some target := by
  rw [searchSorted] at found
  by_cases unfinished : low < high
  · simp only [if_pos unfinished] at found
    cases middle : table[(low + high) / 2]? with
    | none => simp [middle] at found
    | some entry =>
        simp only [middle] at found
        by_cases same : target = entry
        · rw [if_pos same] at found
          rw [← Option.some.inj found, middle, same]
        · rw [if_neg same] at found
          by_cases before : target < entry
          · rw [if_pos before] at found
            exact search_sorted_sound table target low ((low + high) / 2) index found
          · rw [if_neg before] at found
            exact search_sorted_sound table target ((low + high) / 2 + 1) high index found
  · simp [unfinished] at found
termination_by high - low

theorem ascending_get (table : Array String) (ascending : table.toList.Pairwise (· < ·)) (index later : Nat)
    (entry other : String) (here : table[index]? = some entry) (there : table[later]? = some other)
    (before : index < later) : entry < other := by
  obtain ⟨_, rfl⟩ := Array.getElem?_eq_some_iff.mp here
  obtain ⟨_, rfl⟩ := Array.getElem?_eq_some_iff.mp there
  exact List.pairwise_iff_getElem.mp ascending index later _ _ before

theorem less_excludes (a b : String) (less : a < b) : b ≠ a ∧ ¬ b < a := by
  constructor
  · intro same
    exact String.lt_irrefl _ (same ▸ less)
  · intro reverse
    exact String.lt_irrefl _ (String.lt_trans less reverse)

-- The place of the target stays between the two bounds, so the search cannot end without it.
theorem search_sorted_complete (table : Array String) (ascending : table.toList.Pairwise (· < ·)) (target : String)
    (low high index : Nat) (here : table[index]? = some target) (above : low ≤ index) (below : index < high)
    (bounded : high ≤ table.size) : searchSorted table target low high = some index := by
  have inside : (low + high) / 2 < table.size := by omega
  have middle : table[(low + high) / 2]? = some table[(low + high) / 2] := Array.getElem?_eq_getElem inside
  rw [searchSorted]
  simp only [if_pos (Nat.lt_of_le_of_lt above below), middle]
  rcases Nat.lt_trichotomy index ((low + high) / 2) with before | same | after
  · have less := ascending_get table ascending index _ target _ here middle before
    obtain ⟨different, _⟩ := less_excludes _ _ less
    rw [if_neg different.symm, if_pos less]
    exact search_sorted_complete table ascending target low _ index here above before (by omega)
  · have equal : target = table[(low + high) / 2] := Option.some.inj (by rw [← here, ← middle, same])
    rw [if_pos equal, same]
  · have less := ascending_get table ascending _ index _ target middle here after
    obtain ⟨different, notBefore⟩ := less_excludes _ _ less
    rw [if_neg different, if_neg notBefore]
    exact search_sorted_complete table ascending target _ high index here (by omega) below bounded
termination_by high - low

theorem search_sorted_iff (table : Array String) (ascending : table.toList.Pairwise (· < ·)) (target : String)
    (index : Nat) : searchSorted table target 0 table.size = some index ↔ table[index]? = some target := by
  constructor
  · intro found
    exact search_sorted_sound table target 0 table.size index found
  · intro here
    obtain ⟨bounded, _⟩ := Array.getElem?_eq_some_iff.mp here
    exact search_sorted_complete table ascending target 0 table.size index here (Nat.zero_le index) bounded (Nat.le_refl _)

theorem search_sorted_eq_scan (table : Array String) (ascending : table.toList.Pairwise (· < ·)) (target : String) :
    searchSorted table target 0 table.size = table.findIdx? fun entry => target == entry := by
  apply Option.ext
  intro index
  rw [search_sorted_iff table ascending, Array.findIdx?_eq_some_iff_getElem]
  constructor
  · intro here
    obtain ⟨bounded, entry⟩ := Array.getElem?_eq_some_iff.mp here
    refine ⟨bounded, beq_iff_eq.mpr entry.symm, fun earlier before same => ?_⟩
    have there := Array.getElem?_eq_getElem (Nat.lt_trans before bounded)
    rw [← beq_iff_eq.mp same] at there
    exact String.lt_irrefl _ (ascending_get table ascending earlier index target target there here before)
  · rintro ⟨bounded, same, _⟩
    rw [Array.getElem?_eq_getElem bounded, ← beq_iff_eq.mp same]

namespace Keyword

theorem folded_texts_ascending : foldedTexts.toList.Pairwise (· < ·) := by
  have ordered : all.toList.Pairwise fun keyword other =>
      keyword.text.toList.map Char.toLower < other.text.toList.map Char.toLower := by
    decide +kernel
  rw [foldedTexts, Array.toList_map, List.pairwise_map]
  refine ordered.imp fun less => ?_
  rw [String.lt_iff, foldCase, foldCase, String.toList_map, String.toList_map]
  exact less

theorem mem_all (keyword : Keyword) : keyword ∈ all := by
  have listed : keyword ∈ all.toList := by cases keyword <;> decide
  exact Array.mem_toList_iff.mp listed

theorem folded_texts_get (index : Nat) : foldedTexts[index]? = all[index]?.map fun keyword => foldCase keyword.text :=
  Array.getElem?_map

theorem index_iff (word : String) (index : Nat) :
    index? word = some index ↔ ∃ keyword, all[index]? = some keyword ∧ foldCase word = foldCase keyword.text := by
  rw [index?, search_sorted_iff foldedTexts folded_texts_ascending, folded_texts_get, Option.map_eq_some_iff]
  exact exists_congr fun keyword => and_congr_right fun _ => eq_comm

theorem of_string_iff (word : String) (keyword : Keyword) :
    ofString? word = some keyword ↔ equalIgnoringCase word keyword.text = true := by
  rw [equal_ignoring_case_iff]
  constructor
  · intro spelled
    obtain ⟨index, found, here⟩ := Option.bind_eq_some_iff.mp spelled
    obtain ⟨other, there, same⟩ := (index_iff word index).mp found
    obtain rfl : keyword = other := Option.some.inj (here.symm.trans there)
    exact same
  · intro same
    obtain ⟨index, here⟩ := Array.mem_iff_getElem?.mp (mem_all keyword)
    exact Option.bind_eq_some_iff.mpr ⟨index, (index_iff word index).mpr ⟨keyword, here, same⟩, here⟩

theorem of_string_text (keyword : Keyword) : ofString? keyword.text = some keyword :=
  (of_string_iff keyword.text keyword).mpr ((equal_ignoring_case_iff _ _).mpr rfl)

end Keyword

end SqlOutline
