import SqlOutline.Proofs.Parser.Respelling
import SqlOutline.Query.Grammar

set_option autoImplicit false

namespace SqlOutline

def Column.respell (text : String → String) (item : Column) : Column :=
  ⟨item.table?.map text, text item.column, item.alias?.map text⟩

def Table.respell (text : String → String) (item : Table) : Table :=
  ⟨text item.name, item.alias?.map text⟩

def Query.respell (text : String → String) (query : Query) : Query :=
  ⟨query.statement?, query.comments.map text, query.selects.map (Column.respell text), query.froms.map (Table.respell text)⟩

namespace Query

open SqlOutline.Parser

def State.respell (text : String → String) : State → State
  | .start => .start
  | .columns item => .columns (item.respell text)
  | .tables item => .tables (item.respell text)

variable (respelling : Respelling)

abbrev ReadsAlike (action other : ParseM Query (Option State)) : Prop :=
  Alike respelling (Query.respell respelling.text)
    (fun following? other? => other? = following?.map (State.respell respelling.text)) action other

section Values

theorem respell_column_empty : ({} : Column).respell respelling.text = {} := by
  simp only [Column.respell, respelling.empty, Option.map_none]

theorem respell_table_empty : ({} : Table).respell respelling.text = {} := by
  simp only [Table.respell, respelling.empty, Option.map_none]

theorem respell_column_valid (item : Column) : (item.respell respelling.text).isValid = item.isValid := by
  simp only [Column.isValid, Column.respell, respelling.is_empty]

theorem respell_table_valid (item : Table) : (item.respell respelling.text).isValid = item.isValid := by
  simp only [Table.isValid, Table.respell, respelling.is_empty]

theorem respell_add_comment (text : String → String) (comment : String) (query : Query) :
    (query.respell text).addComment (text comment) = (query.addComment comment).respell text := by
  simp [respell, addComment]

theorem respell_add_select (text : String → String) (item : Column) (query : Query) :
    (query.respell text).addSelect (item.respell text) = (query.addSelect item).respell text := by
  simp [respell, addSelect]

theorem respell_add_from (text : String → String) (item : Table) (query : Query) :
    (query.respell text).addFrom (item.respell text) = (query.addFrom item).respell text := by
  simp [respell, addFrom]

end Values

section Steps

variable {respelling} {token other : Token} (same : SameToken respelling token other)

theorem goes_on_alike {following other : State} (same : other = following.respell respelling.text) :
    ReadsAlike respelling (pure (some following)) (pure (some other)) :=
  alike_pure (congrArg some same)

theorem commit_alike (what : String) {valid otherValid : Bool} {add otherAdd : Query → Query}
    {following? other? : Option State} (same : otherValid = valid)
    (commutes : ∀ query, otherAdd (Query.respell respelling.text query) = Query.respell respelling.text (add query))
    (goesOn : other? = following?.map (State.respell respelling.text)) :
    ReadsAlike respelling (do commit what valid add; return following?) (do commit what otherValid otherAdd; return other?) :=
  alike_bind (alike_commit what same commutes) fun _ _ _ => alike_pure goesOn

include same

theorem unexpected_alike (state : String) :
    ReadsAlike respelling (fail (.unexpected state token)) (fail (.unexpected state other)) :=
  alike_fail (.unexpected same.1 state) rfl

theorem read_start_alike : ReadsAlike respelling (readStart token) (readStart other) := by
  obtain ⟨respells, readable⟩ := same
  unfold readStart
  rw [respells.kind, respells.is_keyword, respells.text readable]
  split
  · exact commit_alike _ rfl (respell_add_comment _ _) rfl
  · exact commit_alike _ rfl (respell_add_comment _ _) rfl
  · split
    · refine alike_bind (alike_change fun query => rfl) fun _ _ _ => goes_on_alike ?_
      rw [State.respell, respell_column_empty]
    · exact alike_fail (.unsupported respells) rfl
  · exact unexpected_alike ⟨respells, readable⟩ _

theorem read_column_name_alike (item : Column) :
    ReadsAlike respelling (readColumnName item token) (readColumnName (item.respell respelling.text) other) := by
  refine alike_bind alike_peek fun following otherFollowing next => ?_
  rw [next.1.kind, same.1.text same.2]
  split
  · exact alike_bind alike_skip fun _ _ _ => goes_on_alike rfl
  · refine alike_bind alike_next fun label otherLabel labels => goes_on_alike ?_
    rw [labels.1.text labels.2]
    rfl
  · refine goes_on_alike ?_
    simp only [Column.respell, State.respell, respelling.append]

omit same in
theorem read_alias_alike (item : Column) :
    ReadsAlike respelling (readAlias item) (readAlias (item.respell respelling.text)) := by
  refine alike_bind alike_next fun label otherLabel labels => ?_
  rw [labels.1.kind]
  split
  · refine goes_on_alike ?_
    rw [labels.1.text labels.2]
    rfl
  · exact alike_fail (.not_found labels.1 _ _ rfl) rfl

theorem read_column_alike (item : Column) :
    ReadsAlike respelling (readColumn item token) (readColumn (item.respell respelling.text) other) := by
  obtain ⟨respells, readable⟩ := same
  unfold readColumn
  rw [respells.kind, respells.is_keyword, respells.is_keyword, respells.text readable]
  have valid := respell_column_valid respelling item
  split
  · refine commit_alike _ valid (respell_add_select _ item) ?_
    simp only [Option.map_some, State.respell, respell_column_empty]
  · split
    · refine commit_alike _ valid (respell_add_select _ item) ?_
      simp only [Option.map_some, State.respell, respell_table_empty]
    · split
      · exact read_alias_alike item
      · exact unexpected_alike ⟨respells, readable⟩ _
  · exact read_column_name_alike ⟨respells, readable⟩ item
  · exact read_column_name_alike ⟨respells, readable⟩ item
  · have star : respelling.text Column.wildcard = Column.wildcard := respelling.symbol '*' rfl
    by_cases isStar : token.text = Column.wildcard
    · rw [isStar, star, if_pos rfl]
      refine goes_on_alike ?_
      simp only [State.respell, Column.respell, star]
    · have otherNoStar : respelling.text token.text ≠ Column.wildcard :=
        fun found => isStar ((respelling.symbol_iff _ '*' rfl).mp found)
      rw [if_neg isStar, if_neg otherNoStar]
      exact unexpected_alike ⟨respells, readable⟩ _
  · exact unexpected_alike ⟨respells, readable⟩ _

theorem read_table_name_alike (item : Table) :
    ReadsAlike respelling (readTableName item token) (readTableName (item.respell respelling.text) other) := by
  obtain ⟨name, alias?⟩ := item
  unfold readTableName
  rw [same.1.text same.2]
  cases alias? with
  | some label =>
      refine alike_fail ?_ rfl
      simp only [ParseError.Respells, ParseError.map, Table.respell, respelling.again]
  | none =>
      simp only [Table.respell, Option.map_none, respelling.is_empty]
      split
      · exact goes_on_alike rfl
      · exact goes_on_alike rfl

theorem read_table_alike (item : Table) :
    ReadsAlike respelling (readTable item token) (readTable (item.respell respelling.text) other) := by
  obtain ⟨respells, readable⟩ := same
  unfold readTable
  rw [respells.kind, respells.is_keyword, respells.is_one_of]
  have valid := respell_table_valid respelling item
  have adds := respell_add_from respelling.text item
  split
  · refine commit_alike _ valid adds ?_
    simp only [Option.map_some, State.respell, respell_table_empty]
  · split
    · exact commit_alike _ valid adds rfl
    · exact unexpected_alike ⟨respells, readable⟩ _
  · exact read_table_name_alike ⟨respells, readable⟩ item
  · exact read_table_name_alike ⟨respells, readable⟩ item
  · exact commit_alike _ valid adds rfl
  · exact commit_alike _ valid adds rfl
  · exact unexpected_alike ⟨respells, readable⟩ _

omit same in
theorem step_alike (state : State) :
    ReadsAlike respelling (grammar.step state) (grammar.step (state.respell respelling.text)) := by
  refine alike_bind alike_next fun token other same => ?_
  cases state with
  | start => exact read_start_alike same
  | columns item => exact read_column_alike same item
  | tables item => exact read_table_alike same item

end Steps

theorem of_tokens_respelled (tokens others : List Token) (respelled : List.Forall₂ (Token.Respells respelling) tokens others) :
    (ofTokens others).value = (ofTokens tokens).value.respell respelling.text ∧
      Option.Rel (ParseError.Respells respelling) (ofTokens tokens).error? (ofTokens others).error? :=
  grammar.run_alike step_alike .start _ _ ⟨rfl, respelled, .none⟩

end Query

end SqlOutline
