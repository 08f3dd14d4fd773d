import SqlOutline.Proofs.TableDefinition.Step

set_option autoImplicit false

namespace SqlOutline.TableDefinition

theorem upper_case_ne_empty (text : String) (written : text ≠ "") : upperCase text ≠ "" := by
  intro empty
  apply written
  have none := congrArg String.toList empty
  rw [upperCase, String.toList_map] at none
  exact String.toList_eq_nil_iff.mp (List.map_eq_nil_iff.mp none)

theorem extend_parts (item : ColumnDefinition) (clause : ColumnClause) :
    (clause.extend item).typeSize? = clause.size?.or item.typeSize? ∧
      (clause.extend item).isArray = (clause.isArray || item.isArray) ∧
      (clause.extend item).notNull = (clause.isNotNull || item.notNull) := by
  cases clause with
  | named name isName =>
      simp only [ColumnClause.extend, nameColumn]
      split <;> exact ⟨rfl, rfl, rfl⟩
  | array word less element size? greater isArray isLess isElement isGreater => cases size? <;> exact ⟨rfl, rfl, rfl⟩
  | _ => exact ⟨rfl, rfl, rfl⟩

theorem extend_of_named (item : ColumnDefinition) (clause : ColumnClause) (named : item.name ≠ "") :
    (clause.extend item).name = item.name ∧ (clause.extend item).baseType = clause.type?.getD item.baseType := by
  cases clause with
  | named name isName => simp [ColumnClause.extend, ColumnClause.type?, nameColumn, named]
  | array word less element size? greater isArray isLess isElement isGreater => cases size? <;> exact ⟨rfl, rfl⟩
  | _ => exact ⟨rfl, rfl⟩

theorem extend_of_unnamed (item : ColumnDefinition) (clause : ColumnClause) (unnamed : item.name = "") :
    (clause.extend item).name = clause.name?.getD "" ∧
      (clause.extend item).baseType = if clause.isName then item.baseType else clause.type?.getD item.baseType := by
  cases clause with
  | named name isName =>
      simp [ColumnClause.extend, ColumnClause.isName, ColumnClause.name?, nameColumn, unnamed]
  | array word less element size? greater isArray isLess isElement isGreater =>
      cases size? <;> exact ⟨unnamed, rfl⟩
  | _ => exact ⟨unnamed, rfl⟩

theorem clause_name_written (clause : ColumnClause) (text : String) (written : NamesWritten clause.tokens)
    (found : clause.name? = some text) : text ≠ "" := by
  cases clause with
  | named name isName =>
      cases found
      exact written name List.mem_cons_self isName
  | _ => contradiction

theorem clause_type_written (clause : ColumnClause) (text : String) (written : NamesWritten clause.tokens)
    (found : clause.type? = some text) : text ≠ "" := by
  cases clause with
  | named name isName =>
      cases found
      exact upper_case_ne_empty _ (written name List.mem_cons_self isName)
  | array word less element size? greater isArray isLess isElement isGreater =>
      cases found
      refine upper_case_ne_empty _ (written element ?_ (by rw [isElement]; rfl))
      simp [ColumnClause.tokens]
  | _ => contradiction

theorem foldl_named (clauses : List ColumnClause) (item : ColumnDefinition) (named : item.name ≠ "") :
    (clauses.foldl ColumnClause.extend item).name = item.name ∧
      some (clauses.foldl ColumnClause.extend item).baseType =
        lastFound ColumnClause.type? clauses (some item.baseType) := by
  induction clauses generalizing item with
  | nil => exact ⟨rfl, rfl⟩
  | cons clause rest ih =>
      obtain ⟨name, type⟩ := extend_of_named item clause named
      have further := ih (clause.extend item) (name.symm ▸ named)
      rw [List.foldl_cons, further.1, further.2, name, type, last_found_cons]
      refine ⟨rfl, ?_⟩
      cases clause.type? <;> rfl

theorem foldl_unnamed (clauses : List ColumnClause) (item : ColumnDefinition) (unnamed : item.name = "")
    (written : NamesWritten (clauses.flatMap ColumnClause.tokens)) :
    (clauses.foldl ColumnClause.extend item).name = ((clauses.filterMap ColumnClause.name?).head?).getD "" ∧
      some (clauses.foldl ColumnClause.extend item).baseType =
        lastFound ColumnClause.type? (clauses.eraseP ColumnClause.isName) (some item.baseType) := by
  induction clauses generalizing item with
  | nil => exact ⟨unnamed, rfl⟩
  | cons clause rest ih =>
      rw [List.flatMap_cons, names_written_append] at written
      obtain ⟨name, type⟩ := extend_of_unnamed item clause unnamed
      rw [List.foldl_cons]
      cases found : clause.name? with
      | none =>
          have isName : clause.isName = false := by simp [ColumnClause.isName, found]
          rw [found] at name
          rw [isName] at type
          have further := ih (clause.extend item) name written.2
          rw [further.1, further.2, type, List.filterMap_cons_none found,
            List.eraseP_cons_of_neg (by simp [isName]), last_found_cons]
          refine ⟨rfl, ?_⟩
          cases clause.type? <;> rfl
      | some text =>
          have isName : clause.isName = true := by simp [ColumnClause.isName, found]
          rw [found] at name
          rw [isName] at type
          have further := foldl_named rest (clause.extend item)
            (name.symm ▸ clause_name_written clause text written.1 found)
          rw [further.1, further.2, name, type, List.filterMap_cons_some found, List.eraseP_cons_of_pos isName]
          exact ⟨rfl, rfl⟩

theorem foldl_empty_type (clauses : List ColumnClause) (written : NamesWritten (clauses.flatMap ColumnClause.tokens)) :
    (clauses.foldl ColumnClause.extend {}).baseType = (types clauses).getLast?.getD "" := by
  have last := (foldl_unnamed clauses {} rfl written).2
  unfold lastFound at last
  change some _ = (types clauses).getLast?.or (some "") at last
  cases found : (types clauses).getLast? <;> simpa [found] using last

theorem foldl_extend_empty (form : ColumnForm) (written : NamesWritten form.tokens) :
    form.clauses.foldl ColumnClause.extend {} = form.column := by
  have size := foldl_last_found ColumnClause.extend ColumnDefinition.typeSize? ColumnClause.size?
    (fun item clause => (extend_parts item clause).1) form.clauses {}
  have array := foldl_flag ColumnClause.extend ColumnDefinition.isArray ColumnClause.isArray
    (fun item clause => (extend_parts item clause).2.1) form.clauses {}
  have notNull := foldl_flag ColumnClause.extend ColumnDefinition.notNull ColumnClause.isNotNull
    (fun item clause => (extend_parts item clause).2.2) form.clauses {}
  apply ColumnDefinition.ext
  · exact (foldl_unnamed form.clauses {} rfl written).1
  · rw [foldl_empty_type form.clauses written, List.getLast?_eq_some_getLast form.isTyped]
    rfl
  · exact size.trans Option.or_none
  · exact array.trans (Bool.or_false _)
  · exact notNull.trans (Bool.or_false _)

theorem first_name_iff (clauses : List ColumnClause) (written : NamesWritten (clauses.flatMap ColumnClause.tokens)) :
    ((clauses.filterMap ColumnClause.name?).head?).getD "" ≠ "" ↔ ∃ clause ∈ clauses, clause.isName = true := by
  induction clauses with
  | nil => simp
  | cons clause rest ih =>
      rw [List.flatMap_cons, names_written_append] at written
      cases found : clause.name? with
      | none =>
          have isName : clause.isName = false := by simp [ColumnClause.isName, found]
          rw [List.filterMap_cons_none found, ih written.2]
          simp [isName]
      | some text =>
          have isName : clause.isName = true := by simp [ColumnClause.isName, found]
          have nameText := clause_name_written clause text written.1 found
          rw [List.filterMap_cons_some found]
          simp [isName, nameText]

theorem last_type_iff (clauses : List ColumnClause) (written : NamesWritten (clauses.flatMap ColumnClause.tokens)) :
    (types clauses).getLast?.getD "" ≠ "" ↔ types clauses ≠ [] := by
  cases last : (types clauses).getLast? with
  | none => simp [List.getLast?_eq_none_iff.mp last]
  | some text =>
      have member := List.mem_of_getLast? last
      obtain ⟨clause, among, found⟩ := List.mem_filterMap.mp member
      have inside : NamesWritten clause.tokens := fun token part =>
        written token (List.mem_flatMap.mpr ⟨clause, List.mem_of_mem_eraseP among, part⟩)
      simp [clause_type_written clause text inside found, List.ne_nil_of_mem member]

theorem foldl_valid_iff (clauses : List ColumnClause) (written : NamesWritten (clauses.flatMap ColumnClause.tokens)) :
    (clauses.foldl ColumnClause.extend {}).isValid = true ↔
      (∃ clause ∈ clauses, clause.isName = true) ∧ types clauses ≠ [] := by
  rw [ColumnDefinition.isValid, (foldl_unnamed clauses {} rfl written).1, foldl_empty_type clauses written,
    ← first_name_iff clauses written, ← last_type_iff clauses written]
  simp

end SqlOutline.TableDefinition
