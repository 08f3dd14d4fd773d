import SqlOutline.Proofs.Parser.Repetition
import SqlOutline.Proofs.TableDefinition.Column
import SqlOutline.Proofs.Token.Stream

set_option autoImplicit false

namespace SqlOutline.TableDefinition

theorem column_sound (item : ColumnDefinition) (definition result : TableDefinition) (tokens : List Token)
    (accepts : Accepts Step (.columns item) definition tokens result) :
    ∃ (clauses : List ColumnClause) (separator : Token) (rest : List Token),
      tokens = clauses.flatMap ColumnClause.tokens ++ separator :: rest ∧
      (clauses.foldl ColumnClause.extend item).isValid = true ∧
      ((separator.kind = .comma ∧ Accepts Step (.columns {})
          (definition.addColumn (clauses.foldl ColumnClause.extend item)) rest result) ∨
        (separator.kind = .rightParen ∧ result = definition.addColumn (clauses.foldl ColumnClause.extend item))) := by
  generalize reading : State.columns item = state at accepts
  induction accepts generalizing item with
  | last state definition result tokens rest step =>
      subst reading
      cases step with
      | close _ _ closing _ isClosing valid => exact ⟨[], closing, rest, rfl, valid, .inr ⟨isClosing, rfl⟩⟩
  | more state following definition changed result tokens rest step run ih =>
      subst reading
      cases step with
      | clause _ _ clause _ =>
          obtain ⟨clauses, separator, rest, rfl, valid, further⟩ := ih (clause.extend item) rfl
          refine ⟨clause :: clauses, separator, rest, ?_, valid, further⟩
          rw [List.flatMap_cons, List.append_assoc]
      | column _ _ comma _ isComma valid => exact ⟨[], comma, rest, rfl, valid, .inl ⟨isComma, run⟩⟩

theorem column_complete (clauses : List ColumnClause) (item : ColumnDefinition) (definition result : TableDefinition)
    (rest : List Token)
    (further : Accepts Step (.columns (clauses.foldl ColumnClause.extend item)) definition rest result) :
    Accepts Step (.columns item) definition (clauses.flatMap ColumnClause.tokens ++ rest) result := by
  induction clauses generalizing item with
  | nil => exact further
  | cons clause clauses ih =>
      rw [List.flatMap_cons, List.append_assoc]
      exact .more _ _ _ _ _ _ _ (.clause item definition clause _) (ih (clause.extend item) further)

def EndsColumns (definition : TableDefinition) (closing : Token) (_rest : List Token) (result : TableDefinition) : Prop :=
  closing.kind = .rightParen ∧ result = definition

theorem takes_columns : TakesEntries (.columns {}) ColumnForm.tokens ColumnForm.column addColumn EndsColumns Step := by
  intro definition tokens result written
  constructor
  · intro accepts
    obtain ⟨clauses, separator, rest, rfl, valid, further⟩ := column_sound {} definition result tokens accepts
    have front := ((names_written_append _ _).mp written).1
    obtain ⟨named, typed⟩ := (foldl_valid_iff clauses front).mp valid
    rw [foldl_extend_empty ⟨clauses, named, typed⟩ front] at further
    exact ⟨⟨clauses, named, typed⟩, separator, rest, rfl, further⟩
  · rintro ⟨form, separator, rest, rfl, further⟩
    have front := ((names_written_append _ _).mp written).1
    have valid : form.column.isValid = true := by
      rw [← foldl_extend_empty form front, foldl_valid_iff form.clauses front]
      exact ⟨form.isNamed, form.isTyped⟩
    refine column_complete form.clauses {} definition result _ ?_
    rw [foldl_extend_empty form front]
    rcases further with ⟨isComma, further⟩ | ⟨isClosing, rfl⟩
    · exact .more _ _ _ _ _ _ _ (.column form.column definition separator rest isComma valid) further
    · exact .last _ _ _ _ _ (.close form.column definition separator rest isClosing valid)

def LeavesObject (definition : TableDefinition) (tokens : List Token) (result : TableDefinition) : Prop :=
  ∃ table name opening rest, tokens = table :: name :: opening :: rest ∧ table.isKeyword .TABLE = true ∧
    name.kind.isName = true ∧ opening.kind = .leftParen ∧
    Accepts Step (.columns {}) { definition with name := name.text } rest result

def LeavesStart (definition : TableDefinition) (tokens : List Token) (result : TableDefinition) : Prop :=
  ∃ create rest, tokens = create :: rest ∧ create.isKeyword .CREATE = true ∧ Accepts Step .object definition rest result

theorem takes_comments_object : TakesComments .object addComment LeavesObject Step := by
  intro definition tokens result
  constructor
  · intro accepts
    cases accepts with
    | last _ _ _ _ _ step => contradiction
    | more _ _ _ _ _ _ rest step run =>
        cases step with
        | between _ token _ isComment => exact .inl ⟨token, rest, rfl, isComment, run⟩
        | table _ table _ isTable =>
            cases run with
            | last _ _ _ _ _ step => contradiction
            | more _ _ _ _ _ _ back step run =>
                cases step with
                | name _ name opening _ isName isOpening =>
                    exact .inr ⟨table, name, opening, back, rfl, isTable, isName, isOpening, run⟩
  · rintro (⟨token, rest, rfl, isComment, further⟩ | ⟨table, name, opening, rest, rfl, isTable, isName, isOpening, further⟩)
    · exact .more _ _ _ _ _ _ _ (.between definition token rest isComment) further
    · refine .more _ _ _ _ _ _ _ (.table definition table _ isTable) ?_
      exact .more _ _ _ _ _ _ _ (.name definition name opening rest isName isOpening) further

theorem takes_comments_start : TakesComments .start addComment LeavesStart Step := by
  intro definition tokens result
  constructor
  · intro accepts
    cases accepts with
    | last _ _ _ _ _ step => contradiction
    | more _ _ _ _ _ _ rest step run =>
        cases step with
        | before _ token _ isComment => exact .inl ⟨token, rest, rfl, isComment, run⟩
        | create _ create _ isCreate => exact .inr ⟨create, rest, rfl, isCreate, run⟩
  · rintro (⟨token, rest, rfl, isComment, further⟩ | ⟨create, rest, rfl, isCreate, further⟩)
    · exact .more _ _ _ _ _ _ _ (.before definition token rest isComment) further
    · exact .more _ _ _ _ _ _ _ (.create definition create rest isCreate) further

theorem foldl_add_comment (texts : List String) (definition : TableDefinition) :
    texts.foldl addComment definition = { definition with comments := definition.comments ++ texts } :=
  foldl_collect addComment (fun definition texts => { definition with comments := definition.comments ++ texts })
    (by simp) (by simp [addComment]) texts definition

theorem foldl_add_column (items : List ColumnDefinition) (definition : TableDefinition) :
    items.foldl addColumn definition = { definition with columns := definition.columns ++ items } :=
  foldl_collect addColumn (fun definition items => { definition with columns := definition.columns ++ items })
    (by simp) (by simp [addColumn]) items definition

theorem start_sound (tokens : List Token) (written : NamesWritten tokens) (result : TableDefinition)
    (accepts : Accepts Step .start {} tokens result) :
    ∃ form : DefinitionForm, form.tokens = tokens ∧ form.definition = result := by
  obtain ⟨before, _, rfl, areBefore, create, _, rfl, isCreate, creating⟩ :=
    comments_sound _ _ _ takes_comments_start {} result tokens accepts
  obtain ⟨between, _, rfl, areBetween, table, name, opening, _, rfl, isTable, isName, isOpening, listing⟩ :=
    comments_sound _ _ _ takes_comments_object _ result _ creating
  have inside : NamesWritten _ := ((names_written_append _ _).mp
    (names_written_tail _ _ ((names_written_append _ _).mp written).2)).2
  have listed := names_written_tail _ _ (names_written_tail _ _ (names_written_tail _ _ inside))
  obtain ⟨columns, closing, rest, rfl, isClosing, rfl⟩ :=
    comma_list_sound _ _ _ _ _ takes_columns _ result _ listed listing
  have areComments := List.forall_mem_append.mpr ⟨areBefore, areBetween⟩
  refine ⟨⟨before, create, between, table, name, opening, columns, closing, rest, areComments, isCreate, isTable,
    isName, isOpening, isClosing⟩, ?_, ?_⟩
  · simp [DefinitionForm.tokens]
  · simp [DefinitionForm.definition, foldl_add_comment, foldl_add_column]

theorem form_accepted (form : DefinitionForm) (written : NamesWritten form.tokens) :
    Accepts Step .start {} form.tokens form.definition := by
  obtain ⟨areBefore, areBetween⟩ := List.forall_mem_append.mp form.areComments
  simp only [DefinitionForm.tokens, List.append_assoc, List.cons_append, List.nil_append] at written ⊢
  have inside : NamesWritten _ := ((names_written_append _ _).mp
    (names_written_tail _ _ ((names_written_append _ _).mp written).2)).2
  have listed := names_written_tail _ _ (names_written_tail _ _ (names_written_tail _ _ inside))
  refine comments_complete _ _ _ takes_comments_start form.before {} form.definition _ areBefore
    ⟨form.create, _, rfl, form.isCreate, ?_⟩
  refine comments_complete _ _ _ takes_comments_object form.between _ form.definition _ areBetween
    ⟨form.table, form.name, form.opening, _, rfl, form.isTable, form.isName, form.isOpening, ?_⟩
  refine comma_list_complete _ _ _ _ _ takes_columns form.columns _ form.definition form.closing form.rest listed
    ⟨form.isClosing, ?_⟩
  simp [DefinitionForm.definition, foldl_add_comment, foldl_add_column]

theorem of_tokens_iff (tokens : List Token) (written : NamesWritten tokens) (definition : TableDefinition) :
    ofTokens tokens = ⟨definition, none⟩ ↔
      ∃ form : DefinitionForm, form.tokens = tokens ∧ form.definition = definition := by
  have run := grammar.run_iff_accepts grammar_describes .start {} definition tokens 0
  refine Iff.trans run ⟨start_sound tokens written definition, ?_⟩
  rintro ⟨form, rfl, rfl⟩
  exact form_accepted form written

theorem parse_definition_iff (sql : String) :
    ((parse sql).error? = none ↔ ∃ form : DefinitionForm, form.tokens = tokenize sql) ∧
      ∀ definition, parse sql = ⟨definition, none⟩ ↔
        ∃ form : DefinitionForm, form.tokens = tokenize sql ∧ form.definition = definition := by
  have accepted := of_tokens_iff (tokenize sql) (names_written_tokenize sql)
  exact ⟨error_none_iff (parse sql) _ DefinitionForm.definition accepted, accepted⟩

end SqlOutline.TableDefinition
