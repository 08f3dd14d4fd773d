import SqlOutline.Proofs.TableDefinition.Column
import SqlOutline.Proofs.TableDefinition.Faults
import SqlOutline.Proofs.Text.Capitals
import SqlOutline.Proofs.Token.Provenance

set_option autoImplicit false

namespace SqlOutline

structure CapitalsOf (tokens : List Token) (kinds : List TokenKind) (text : String) : Prop where
  written : text ≠ ""
  noLower : ∀ c ∈ text.toList, c.isLower = false
  found : ∃ token ∈ tokens, token.kind ∈ kinds ∧ text = upperCase token.text

theorem TextOf.capitals {tokens : List Token} {kinds : List TokenKind} {text : String} (textOf : TextOf tokens kinds text) :
    CapitalsOf tokens kinds (upperCase text) := by
  obtain ⟨written, token, member, kind, rfl⟩ := textOf
  exact ⟨TableDefinition.upper_case_ne_empty _ written, upper_case_no_lower _, token, member, kind, rfl⟩

theorem ColumnType.text_no_lower (type : ColumnType) : ∀ c ∈ type.text.toList, c.isLower = false := by
  have none : type.text.toList.all (fun c => !c.isLower) = true := by cases type <;> decide
  simpa using none

theorem ColumnType.of_text_text (type : ColumnType) : ofText? type.text = some type := by
  cases type <;> decide +kernel

theorem ColumnType.of_text_iff (type : ColumnType) (word : String) (noLower : ∀ c ∈ word.toList, c.isLower = false) :
    ofText? word = some type ↔ word = type.text := by
  constructor
  · intro found
    have same : equalIgnoringCase type.text word = true :=
      List.find?_some (p := fun type : ColumnType => equalIgnoringCase type.text word) found
    exact (eq_of_same_case _ _ type.text_no_lower noLower ((equal_ignoring_case_iff _ _).mp same)).symm
  · rintro rfl
    exact type.of_text_text

namespace ColumnDefinition

-- Each part of a column comes from the text or is still missing.
structure Sourced (tokens : List Token) (item : ColumnDefinition) : Prop where
  name : item.name = "" ∨ TextOf tokens [.identifier, .backtickedIdentifier] item.name
  baseType : item.baseType = "" ∨ CapitalsOf tokens [.identifier, .backtickedIdentifier] item.baseType
  typeSize : ∀ text ∈ item.typeSize?, CapitalsOf tokens [.identifier, .number] text

structure WellFormed (tokens : List Token) (item : ColumnDefinition) : Prop where
  name : TextOf tokens [.identifier, .backtickedIdentifier] item.name
  baseType : CapitalsOf tokens [.identifier, .backtickedIdentifier] item.baseType
  typeSize : ∀ text ∈ item.typeSize?, CapitalsOf tokens [.identifier, .number] text
  columnType : ∀ type, item.columnType? = some type ↔ item.baseType = type.text

variable {all : List Token}

theorem sourced_empty : Sourced all {} :=
  ⟨.inl rfl, .inl rfl, nofun⟩

theorem well_formed_of_valid (item : ColumnDefinition) (sourced : item.Sourced all) (valid : item.isValid = true) :
    item.WellFormed all := by
  simp only [isValid, Bool.and_eq_true, Bool.not_eq_true', String.isEmpty_eq_false_iff] at valid
  have baseType := sourced.baseType.resolve_left valid.2
  exact ⟨sourced.name.resolve_left valid.1, baseType, sourced.typeSize, fun type =>
    type.of_text_iff item.baseType baseType.noLower⟩

end ColumnDefinition

namespace TableDefinition

structure WellFormed (tokens : List Token) (definition : TableDefinition) : Prop where
  comments : CommentsOf tokens definition.comments
  named : definition.columns ≠ [] → TextOf tokens [.identifier, .backtickedIdentifier] definition.name
  columns : ∀ item ∈ definition.columns, item.WellFormed tokens

structure Complete (definition : TableDefinition) : Prop where
  name : definition.name ≠ ""
  columns : definition.columns ≠ []

def State.Fits (all : List Token) : State → TableDefinition → Prop
  | .columns item, definition =>
      TextOf all [.identifier, .backtickedIdentifier] definition.name ∧ item.Sourced all
  | _, definition => definition.columns = []

structure Reached (all : List Token) (state : State) (definition : TableDefinition) (tokens : List Token) : Prop where
  comments : CommentsBefore all tokens definition.comments
  columns : ∀ item ∈ definition.columns, item.WellFormed all
  fits : state.Fits all definition

variable {all tokens rest : List Token} {definition changed : TableDefinition} {state following : State} {token : Token}

theorem State.Fits.named (fits : state.Fits all definition) (listed : definition.columns ≠ []) :
    TextOf all [.identifier, .backtickedIdentifier] definition.name := by
  cases state with
  | columns item => exact fits.1
  | start | object | name => exact absurd fits listed

theorem Reached.well_formed (reached : Reached all state definition tokens) : definition.WellFormed all :=
  ⟨reached.comments.comments_of, reached.fits.named, reached.columns⟩

theorem Reached.left_well_formed (reached : Reached all state definition tokens) (leaves : Leaves state definition changed) :
    changed.WellFormed all := by
  cases state with
  | name =>
      rw [leaves]
      exact ⟨reached.comments.comments_of, fun listed => absurd reached.fits listed, reached.columns⟩
  | start | object | columns item => exact leaves ▸ reached.well_formed

theorem reached_start (all : List Token) : Reached all .start {} all :=
  ⟨.start all, nofun, rfl⟩

section Clauses

variable {item : ColumnDefinition}

theorem size_capitals (form : SizeForm) (written : TokensWritten all) (members : ∀ token ∈ form.tokens, token ∈ all) :
    CapitalsOf all [.identifier, .number] form.text := by
  have among := members form.size (.tail _ (.head _))
  have text : TextOf all [.identifier, .number] form.size.text :=
    ⟨written _ among (form.goes_on _ (.tail _ (.head _))), form.size, among, by simpa using form.isSize, rfl⟩
  exact text.capitals

theorem sourced_name (token : Token) (written : TokensWritten all) (member : token ∈ all)
    (isName : token.kind.isName = true) (sourced : item.Sourced all) : (nameColumn item token.text).Sourced all := by
  have text := text_of_name written member isName
  unfold nameColumn
  split
  · exact ⟨.inr text, sourced.baseType, sourced.typeSize⟩
  · exact ⟨sourced.name, .inr text.capitals, sourced.typeSize⟩

theorem sourced_size (size? : Option SizeForm) (written : TokensWritten all)
    (members : ∀ token ∈ SizeForm.optionalTokens size?, token ∈ all) (sourced : item.Sourced all) :
    (withSize item size?).Sourced all := by
  cases size? with
  | none => exact sourced
  | some form =>
      have size := size_capitals form written members
      exact ⟨sourced.name, sourced.baseType, fun _ same => Option.some.inj same ▸ size⟩

theorem sourced_clause (clause : ColumnClause) (written : TokensWritten all)
    (members : ∀ token ∈ clause.tokens, token ∈ all) (sourced : item.Sourced all) :
    (clause.extend item).Sourced all := by
  cases clause with
  | named name isName => exact sourced_name name written (members name (.head _)) isName sourced
  | size form => exact sourced_size (some form) written members sourced
  | notNull word null isNot isNull => exact ⟨sourced.name, sourced.baseType, sourced.typeSize⟩
  | primaryKey word key isPrimary isKey => exact sourced
  | array word less element size? greater isArray isLess isElement isGreater =>
      obtain ⟨_, _, among, inside⟩ := by simpa only [ColumnClause.tokens, List.forall_mem_cons] using members
      have type := (text_of_name written among (by rw [isElement]; rfl)).capitals
      have typed : ColumnDefinition.Sourced all { item with baseType := upperCase element.text, isArray := true } :=
        ⟨sourced.name, .inr type, sourced.typeSize⟩
      exact sourced_size size? written (List.forall_mem_append.mp inside).1 typed

end Clauses

theorem reached_add_column (item : ColumnDefinition) (reached : Reached all (.columns item) definition (token :: rest))
    (valid : item.isValid = true) : Reached all (.columns {}) (definition.addColumn item) rest := by
  obtain ⟨comments, columns, named, sourced⟩ := reached
  have wellFormed := item.well_formed_of_valid sourced valid
  have extended := List.forall_mem_append.mpr ⟨columns, List.forall_mem_singleton.mpr wellFormed⟩
  exact ⟨comments.tail, extended, named, ColumnDefinition.sourced_empty⟩

theorem reached_step (written : TokensWritten all) (step : Step state definition tokens (some following) changed rest)
    (ahead : Ahead all tokens) (reached : Reached all state definition tokens) :
    Reached all following changed rest := by
  have ⟨comments, columns, fits⟩ := reached
  cases step with
  | before _ token _ isComment | between _ token _ isComment =>
      have text := written token ahead.mem (TokenKind.comment_goes_on _ isComment)
      exact ⟨comments.comment isComment text, columns, fits⟩
  | create _ token _ isCreate => exact ⟨comments.tail, columns, fits⟩
  | table _ token _ isTable => exact ⟨comments.tail, columns, fits⟩
  | name _ name opening _ isName isOpening =>
      have text := text_of_name written ahead.mem isName
      exact ⟨comments.tail.tail, columns, text, ColumnDefinition.sourced_empty⟩
  | clause item _ clause _ =>
      have members (token : Token) (among : token ∈ clause.tokens) := ahead.suffix.mem (List.mem_append_left rest among)
      exact ⟨comments.drop clause.tokens, columns, fits.1, sourced_clause clause written members fits.2⟩
  | column item _ comma _ isComma valid => exact reached_add_column item reached valid

theorem reached_last (step : Step state definition tokens none changed rest)
    (reached : Reached all state definition tokens) : changed.WellFormed all ∧ changed.Complete := by
  cases step with
  | close item _ closing _ isClosing valid =>
      have added := reached_add_column item reached valid
      exact ⟨added.well_formed, added.fits.1.written, List.concat_ne_nil _ _⟩

theorem run_maintains (written : TokensWritten all) :
    Grammar.Maintains all Step Leaves (Reached all) (WellFormed all) fun definition =>
      definition.WellFormed all ∧ definition.Complete where
  step _ _ _ _ _ _ step ahead reached := reached_step written step ahead reached
  last _ _ _ _ _ step reached := reached_last step reached
  stop _ _ _ _ leaves reached := reached.left_well_formed leaves

theorem parse_definition_well_formed (sql : String) :
    (parse sql).value.WellFormed (tokenize sql) ∧ ((parse sql).error? = none → (parse sql).value.Complete) := by
  have written := tokens_written_tokenize sql
  have accounts := grammar.run_accounts (grammar_accountable (tokenize sql)) (run_maintains written) .start {} _ 0
    (ahead_of_tokenize sql) (reached_start _)
  exact ⟨accounts.left fun _ whole => whole.1, fun clean => (accounts.whole clean).2⟩

theorem parse_definition_well_formed_capitals :
    (parse "CREATE -- t\nTABLE t (`b` string(Max) Int64 (0x1f))").error? = none ∧
      (parse "CREATE -- t\nTABLE t (`b` string(Max) Int64 (0x1f))").value =
        ⟨"t", ["-- t"], [⟨"`b`", "INT64", some "0X1F", false, false⟩]⟩ ∧
      (parse "CREATE -- t\nTABLE t (`b` string(Max) Int64 (0x1f))").value.WellFormed
        (tokenize "CREATE -- t\nTABLE t (`b` string(Max) Int64 (0x1f))") ∧
      (parse "CREATE -- t\nTABLE t (`b` string(Max) Int64 (0x1f))").value.Complete :=
  have clean : (parse "CREATE -- t\nTABLE t (`b` string(Max) Int64 (0x1f))").error? = none :=
    Option.isNone_iff_eq_none.mp (by decide +kernel)
  have read := parse_definition_well_formed "CREATE -- t\nTABLE t (`b` string(Max) Int64 (0x1f))"
  ⟨clean, by decide +kernel, read.1, read.2 clean⟩

end TableDefinition

end SqlOutline
