import SqlOutline.Proofs.Query.Acceptance
import SqlOutline.Proofs.Query.Written
import SqlOutline.Proofs.Token.Pieces

set_option autoImplicit false

namespace SqlOutline.Query

namespace ColumnForm

def ofUnit (unit : ColumnUnit) (named : unit.columnText?.isSome = true) : ColumnForm where
  units := [unit]
  isCut := ⟨fun _ => nofun, trivial⟩
  isNamed := ⟨unit, List.mem_cons_self, named⟩

theorem of_unit_column (unit : ColumnUnit) (named : unit.columnText?.isSome = true) (text : String)
    (known : unit.columnText? = some text) : (ofUnit unit named).column = ⟨unit.qualifier?, text, unit.alias?⟩ := by
  ext1
  · cases found : unit.qualifier? <;> simp [column, ofUnit, found]
  · simp [column, ofUnit, currentUnits, known]
  · cases found : unit.alias? <;> simp [column, ofUnit, found]

def labelled (unit : ColumnUnit) (word label : Token) (named : unit.columnText?.isSome = true)
    (isAs : word.isKeyword .AS = true) (isLabel : label.kind = .identifier) : ColumnForm where
  units := [unit, .asAlias word label isAs isLabel]
  isCut := by
    have keyword := Token.kind_of_keyword word .AS ((Token.is_keyword_iff word .AS).mp isAs)
    refine ⟨fun _ => ?_, nofun, trivial⟩
    rintro _ ⟨⟩
    rw [keyword]
    exact ⟨nofun, nofun⟩
  isNamed := ⟨unit, List.mem_cons_self, named⟩

theorem labelled_column (unit : ColumnUnit) (word label : Token) (named : unit.columnText?.isSome = true)
    (isAs : word.isKeyword .AS = true) (isLabel : label.kind = .identifier) (text : String)
    (known : unit.columnText? = some text) :
    (labelled unit word label named isAs isLabel).column = ⟨unit.qualifier?, text, some label.text⟩ := by
  have noTable : (ColumnUnit.asAlias word label isAs isLabel).qualifier? = none := rfl
  have noText : (ColumnUnit.asAlias word label isAs isLabel).columnText? = none := rfl
  have gives : (ColumnUnit.asAlias word label isAs isLabel).alias? = some label.text := rfl
  ext1
  · cases found : unit.qualifier? <;> simp [column, labelled, found, noTable]
  · simp [column, labelled, currentUnits, ColumnUnit.restarts, known, noText]
  · cases found : unit.alias? <;> simp [column, labelled, found, gives]

def qualified (form : ColumnForm) (name dot : Token) (isName : name.kind.isName = true) (isDot : dot.kind = .dot) :
    ColumnForm where
  units := .qualifier name dot isName isDot :: form.units
  isCut := ⟨nofun, form.isCut⟩
  isNamed := by
    obtain ⟨unit, member, named⟩ := form.isNamed
    exact ⟨unit, List.mem_cons_of_mem _ member, named⟩

theorem qualified_column (form : ColumnForm) (name dot : Token) (isName : name.kind.isName = true)
    (isDot : dot.kind = .dot) (unqualified : form.column.table? = none) :
    (form.qualified name dot isName isDot).column = { form.column with table? := some name.text } := by
  have tables : form.units.filterMap ColumnUnit.qualifier? = [] := List.getLast?_eq_none_iff.mp unqualified
  ext1
  · simp [column, qualified, ColumnUnit.qualifier?, tables]
  · cases restarted : form.units.any ColumnUnit.restarts with
    | true => simp only [column, qualified, current_units_cons_of_restart _ _ restarted]
    | false =>
        simp only [column, qualified, current_units_cons_of_none _ _ restarted, current_units_of_none _ restarted]
        rw [List.filterMap_cons_none rfl]
  · simp [column, qualified, ColumnUnit.alias?]

end ColumnForm

theorem lexes_to_as (line : Nat) (label : String) (bare : BareWord label) :
    LexesTo line ("AS " ++ label) [Keyword.AS.token line, ⟨.identifier, label, line⟩] :=
  lexes_to_append line "AS" label _ _ (lexes_to_keyword line .AS) (lexes_to_bare_word line label bare)

theorem lexes_to_labelled (line : Nat) (unit : ColumnUnit) (text label : String) (named : unit.columnText? = some text)
    (unqualified : unit.qualifier? = none) (reads : LexesTo line text unit.tokens) (bare : BareWord label) :
    ∃ form : ColumnForm, form.column = ⟨none, text, some label⟩ ∧ LexesTo line (text ++ (" AS " ++ label)) form.tokens := by
  have isSome : unit.columnText?.isSome = true := by simp [named]
  refine ⟨.labelled unit (Keyword.AS.token line) ⟨.identifier, label, line⟩ isSome (keyword_token_spelled .AS line) rfl, ?_, ?_⟩
  · rw [ColumnForm.labelled_column _ _ _ _ _ _ text named, unqualified]
  · have together := lexes_to_append line text ("AS " ++ label) _ _ reads (lexes_to_as line label bare)
    have spelled : text ++ " " ++ ("AS " ++ label) = text ++ (" AS " ++ label) := by
      simp only [String.append_assoc]
      rfl
    rwa [spelled] at together

theorem lexes_to_unqualified (line : Nat) (withAs : Bool) (item : Column) (printable : item.Printable) :
    ∃ form : ColumnForm, form.column = { item with table? := none } ∧
      LexesTo line (item.column ++ item.aliasText withAs) form.tokens := by
  obtain ⟨table?, column, label?⟩ := item
  obtain ⟨-, named, bare⟩ := printable
  rcases named with isName | rfl
  · obtain ⟨kind, known, name⟩ := lexes_to_name line column isName
    cases label? with
    | none =>
        have spelled : column ++ Column.aliasText withAs ⟨table?, column, none⟩ = column := String.append_empty
        rw [spelled]
        exact ⟨.ofUnit (.plain ⟨kind, column, line⟩ known) rfl, ColumnForm.of_unit_column _ _ column rfl, name⟩
    | some label =>
        by_cases kept : (withAs || Column.isWildcard ⟨table?, column, some label⟩) = true
        · simp only [Column.aliasText, if_pos kept]
          exact lexes_to_labelled line (.plain ⟨kind, column, line⟩ known) column label rfl rfl name (bare label rfl)
        · simp only [Column.aliasText, if_neg kept]
          refine ⟨.ofUnit (.aliased ⟨kind, column, line⟩ ⟨.identifier, label, line⟩ known rfl) rfl,
            ColumnForm.of_unit_column _ _ column rfl, ?_⟩
          have together := lexes_to_append line column label _ _ name (lexes_to_bare_word line label (bare label rfl))
          rw [String.append_assoc] at together
          exact together
  · have star := lexes_to_operator line "*" (by decide)
    cases label? with
    | none =>
        have spelled : Column.wildcard ++ Column.aliasText withAs ⟨table?, Column.wildcard, none⟩ = "*" := String.append_empty
        rw [spelled]
        exact ⟨.ofUnit (.wildcard ⟨.operator, "*", line⟩ ⟨rfl, rfl⟩) rfl, ColumnForm.of_unit_column _ _ _ rfl, star⟩
    | some label =>
        have kept : (withAs || Column.isWildcard ⟨table?, Column.wildcard, some label⟩) = true := by
          simp [Column.isWildcard]
        simp only [Column.aliasText, kept]
        exact lexes_to_labelled line (.wildcard ⟨.operator, "*", line⟩ ⟨rfl, rfl⟩) Column.wildcard label rfl rfl star
          (bare label rfl)

theorem unqualified_starts_afresh (withAs : Bool) (item : Column) (rest : List Char) (printable : item.Printable) :
    StartsAfresh ((item.column ++ item.aliasText withAs).toList ++ rest) := by
  rw [String.toList_append, List.append_assoc]
  rcases printable.column with isName | isWildcard
  · exact name_starts_afresh item.column _ isName
  · rw [isWildcard]
    exact first_holds '*' _ (by decide)

theorem lexes_to_column (line : Nat) (withAs : Bool) (item : Column) (printable : item.Printable) :
    ∃ form : ColumnForm, form.column = item ∧ LexesTo line (item.written withAs) form.tokens := by
  obtain ⟨form, means, reads⟩ := lexes_to_unqualified line withAs item printable
  obtain ⟨table?, column, label?⟩ := item
  cases table? with
  | none =>
      have spelled : Column.written withAs ⟨none, column, label?⟩ = column ++ Column.aliasText withAs ⟨none, column, label?⟩ :=
        congrArg (· ++ _) String.empty_append
      rw [spelled]
      exact ⟨form, means, reads⟩
  | some table =>
      have spelled : Column.written withAs ⟨some table, column, label?⟩ =
          table ++ "." ++ (column ++ Column.aliasText withAs ⟨some table, column, label?⟩) :=
        String.append_assoc ..
      obtain ⟨kind, known, qualified⟩ := lexes_to_qualified line table _ _ (printable.table table rfl)
        (fun rest => unqualified_starts_afresh withAs _ rest printable) reads
      rw [spelled]
      refine ⟨form.qualified ⟨kind, table, line⟩ ⟨.dot, ".", line⟩ known rfl, ?_, qualified⟩
      rw [ColumnForm.qualified_column _ _ _ _ _ (congrArg Column.table? means), means]

theorem lexes_to_table (line : Nat) (item : Table) (printable : item.Printable) :
    ∃ form : TableForm, form.table = item ∧ LexesTo line item.written form.tokens := by
  obtain ⟨name, label?⟩ := item
  obtain ⟨isName, labels⟩ := printable
  obtain ⟨kind, known, first⟩ := lexes_to_name line name isName
  cases label? with
  | none => exact ⟨⟨⟨kind, name, line⟩, none, known, nofun⟩, rfl, first⟩
  | some label =>
      obtain ⟨labelKind, labelKnown, second⟩ := lexes_to_name line label (labels label rfl)
      have isAlias : ∀ token ∈ some (⟨labelKind, label, line⟩ : Token), token.kind.isName = true := by
        rintro _ ⟨⟩
        exact labelKnown
      exact ⟨⟨⟨kind, name, line⟩, some ⟨labelKind, label, line⟩, known, isAlias⟩, rfl,
        lexes_to_append line name label _ _ first second⟩

theorem lexes_to_statement (line : Nat) (withAs : Nat → Bool) (query : Query) (printable : query.Printable) :
    ∃ (columns : CommaList ColumnForm) (tables : CommaList TableForm),
      columns.entries.map ColumnForm.column = query.selects ∧ tables.entries.map TableForm.table = query.froms ∧
      LexesTo line (query.statementText withAs)
        (Keyword.SELECT.token line :: columns.tokens ColumnForm.tokens ++
          Keyword.FROM.token line :: tables.tokens TableForm.tokens) := by
  obtain ⟨columns, selects, first⟩ := lexes_to_indexed_list (fun index => Column.written (withAs index)) ColumnForm.tokens
    ColumnForm.column line query.selects printable.selecting fun item member index =>
      lexes_to_column line (withAs index) item (printable.columns item member)
  obtain ⟨tables, froms, second⟩ := lexes_to_comma_list Table.written TableForm.tokens TableForm.table id line query.froms
    printable.reading fun item member => lexes_to_table line item (printable.tables item member)
  refine ⟨columns, tables, selects, by rw [froms, List.map_id], ?_⟩
  have select := lexes_to_append line "SELECT" _ _ _ (lexes_to_keyword line .SELECT) first
  have source := lexes_to_append line "FROM" _ _ _ (lexes_to_keyword line .FROM) second
  have whole := lexes_to_append line _ _ _ _ select source
  simp only [statementText, String.append_assoc] at whole ⊢
  exact whole

theorem tokens_from_ending (line : Nat) (ended : Bool) :
    ∃ stop rest, StopsQuery stop ∧ tokensFrom line (if ended then ";" else "").toList = stop :: rest := by
  cases ended with
  | false => exact ⟨_, _, .inl rfl, tokens_from_end line⟩
  | true => exact ⟨_, _, .inr (.inl rfl), tokens_from_punctuation line ';' .statementEnd [] rfl⟩

theorem separated_ending (ended : Bool) : Separated (if ended then ";" else "").toList := by
  cases ended with
  | false => exact nofun
  | true => exact first_holds ';' [] (by decide)

theorem exists_written_form (withAs : Nat → Bool) (ended : Bool) (query : Query) (printable : query.Printable) :
    ∃ form : SelectForm, form.tokens = tokenize (query.written withAs ended) ∧ form.query = query := by
  obtain ⟨comments, line, areComments, texts, front⟩ := tokens_from_comments 1 query.comments printable.comments
  obtain ⟨columns, tables, selects, froms, statement⟩ := lexes_to_statement line withAs query printable
  obtain ⟨stop, rest, isStop, ending⟩ := tokens_from_ending line ended
  refine ⟨⟨comments, Keyword.SELECT.token line, columns, Keyword.FROM.token line, tables, stop, rest, areComments,
    keyword_token_spelled .SELECT line, keyword_token_spelled .FROM line, isStop⟩, ?_, ?_⟩
  · have whole : tokenize (query.written withAs ended) = tokensFrom 1 (query.written withAs ended).toList := rfl
    rw [whole, written, String.toList_append, String.toList_append, List.append_assoc, front,
      statement _ (separated_ending ended), ending]
    simp [SelectForm.tokens]
  · obtain ⟨statement?, queryComments, querySelects, queryFroms⟩ := query
    simp only [SelectForm.query, texts, selects, froms, printable.statement.symm]

theorem parse_written (query : Query) (printable : query.Printable) (withAs : Nat → Bool) (ended : Bool) :
    parse (query.written withAs ended) = ⟨query, none⟩ := by
  have written := names_written_tokenize (query.written withAs ended)
  exact (of_tokens_iff _ written query).mpr (exists_written_form withAs ended query printable)

-- Both kinds of comments, a keyword between backticks, an alias of `*` and aliases without AS.
def ordersQuery : Query where
  statement? := some .select
  comments := ["-- per user", "/* not * yet **/"]
  selects := [⟨some "`order`", "größe", some "size"⟩, ⟨some "u", "*", some "rest"⟩, ⟨none, "`2`", none⟩]
  froms := [⟨"`order`", none⟩, ⟨"users", some "u"⟩]

theorem parse_written_orders :
    ordersQuery.Printable ∧
      ordersQuery.written (fun _ => false) true =
        "-- per user\n/* not * yet **/\nSELECT `order`.größe size, u.* AS rest, `2` FROM `order`, users u;" ∧
      parse (ordersQuery.written (fun _ => false) true) = ⟨ordersQuery, none⟩ :=
  have printable : ordersQuery.Printable := by decide +kernel
  ⟨printable, by decide +kernel, parse_written ordersQuery printable (fun _ => false) true⟩

end SqlOutline.Query
