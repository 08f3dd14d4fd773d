import SqlOutline.Proofs.Query.Step

set_option autoImplicit false

namespace SqlOutline.Query

theorem current_units_of_none (units : List ColumnUnit) (none : units.any ColumnUnit.restarts = false) :
    currentUnits units = units := by
  cases units with
  | nil => rfl
  | cons unit rest =>
      rw [List.any_cons, Bool.or_eq_false_iff] at none
      rw [currentUnits, none.2]
      rfl

theorem current_units_cons_of_restart (unit : ColumnUnit) (rest : List ColumnUnit)
    (restart : rest.any ColumnUnit.restarts = true) : currentUnits (unit :: rest) = currentUnits rest := by
  rw [currentUnits, if_pos restart]

theorem current_units_cons_of_none (unit : ColumnUnit) (rest : List ColumnUnit)
    (none : rest.any ColumnUnit.restarts = false) : currentUnits (unit :: rest) = unit :: rest := by
  rw [currentUnits, none]
  rfl

-- What the column is called when `before` was its name until now.
def renamed (before : String) (units : List ColumnUnit) : String :=
  (if units.any ColumnUnit.restarts then "" else before) ++
    String.join ((currentUnits units).filterMap ColumnUnit.columnText?)

theorem renamed_cons (item : Column) (unit : ColumnUnit) (rest : List ColumnUnit) :
    renamed (unit.extend item).column rest = renamed item.column (unit :: rest) := by
  cases later : rest.any ColumnUnit.restarts with
  | true => simp [renamed, later, current_units_cons_of_restart unit rest later]
  | false =>
      simp only [renamed, later, List.any_cons, Bool.or_false, current_units_of_none rest later,
        current_units_cons_of_none unit rest later, List.filterMap_cons]
      cases unit <;>
        simp [ColumnUnit.restarts, ColumnUnit.columnText?, ColumnUnit.extend, String.append_assoc]

theorem extend_table (item : Column) (unit : ColumnUnit) : (unit.extend item).table? = unit.qualifier?.or item.table? := by
  cases unit <;> rfl

theorem extend_alias (item : Column) (unit : ColumnUnit) : (unit.extend item).alias? = unit.alias?.or item.alias? := by
  cases unit <;> rfl

theorem foldl_renamed (units : List ColumnUnit) (item : Column) :
    (units.foldl ColumnUnit.extend item).column = renamed item.column units := by
  induction units generalizing item with
  | nil => simp [renamed, currentUnits]
  | cons unit rest ih => rw [List.foldl_cons, ih, renamed_cons]

theorem foldl_extend_empty (form : ColumnForm) : form.units.foldl ColumnUnit.extend {} = form.column := by
  have table := foldl_last_found ColumnUnit.extend Column.table? ColumnUnit.qualifier? extend_table form.units {}
  have label := foldl_last_found ColumnUnit.extend Column.alias? ColumnUnit.alias? extend_alias form.units {}
  apply Column.ext
  · exact table.trans Option.or_none
  · rw [foldl_renamed]
    simp [renamed, ColumnForm.column]
  · exact label.trans Option.or_none

theorem extend_valid_iff (item : Column) (unit : ColumnUnit) (written : NamesWritten unit.tokens) :
    (unit.extend item).isValid = true ↔ item.isValid = true ∨ unit.columnText?.isSome = true := by
  cases unit with
  | asAlias word name isAs isName => simp [ColumnUnit.extend, ColumnUnit.columnText?, Column.isValid]
  | qualifier name dot isName isDot => simp [ColumnUnit.extend, ColumnUnit.columnText?, Column.isValid]
  | aliased name label isName isLabel =>
      have text := written name List.mem_cons_self isName
      simp [ColumnUnit.extend, ColumnUnit.columnText?, Column.isValid, text]
  | plain name isName =>
      have text := written name List.mem_cons_self isName
      simp [ColumnUnit.extend, ColumnUnit.columnText?, Column.isValid, text]
  | wildcard star isStar => simp [ColumnUnit.extend, ColumnUnit.columnText?, Column.isValid, Column.wildcard]

theorem foldl_valid_iff (units : List ColumnUnit) (item : Column)
    (written : NamesWritten (units.flatMap ColumnUnit.tokens)) :
    (units.foldl ColumnUnit.extend item).isValid = true ↔
      item.isValid = true ∨ ∃ unit ∈ units, unit.columnText?.isSome = true := by
  induction units generalizing item with
  | nil => simp
  | cons unit rest ih =>
      rw [List.flatMap_cons, names_written_append] at written
      rw [List.foldl_cons, ih _ written.2, extend_valid_iff item unit written.1]
      simp [or_assoc]

end SqlOutline.Query
