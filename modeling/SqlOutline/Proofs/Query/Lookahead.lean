import SqlOutline.Proofs.Parser.Continuation
import SqlOutline.Proofs.Query.Step
import SqlOutline.Proofs.Token.Pieces

set_option autoImplicit false

namespace SqlOutline.Query

open SqlOutline.Parser

structure IsPartOf (part whole : Query) : Prop where
  statement : part.statement? = none ∨ part.statement? = whole.statement?
  comments : part.comments <+: whole.comments
  selects : part.selects <+: whole.selects
  froms : part.froms <+: whole.froms

namespace IsPartOf

theorem refl (query : Query) : IsPartOf query query :=
  ⟨.inr rfl, List.prefix_rfl, List.prefix_rfl, List.prefix_rfl⟩

theorem trans (first second third : Query) (before : IsPartOf first second) (after : IsPartOf second third) :
    IsPartOf first third := by
  refine ⟨?_, before.comments.trans after.comments, before.selects.trans after.selects, before.froms.trans after.froms⟩
  rcases before.statement with unset | same
  · exact .inl unset
  · rw [same]
    exact after.statement

theorem add_comment (query : Query) (text : String) : IsPartOf query (query.addComment text) :=
  ⟨.inr rfl, List.prefix_append .., List.prefix_rfl, List.prefix_rfl⟩

theorem add_select (query : Query) (item : Column) : IsPartOf query (query.addSelect item) :=
  ⟨.inr rfl, List.prefix_rfl, List.prefix_append .., List.prefix_rfl⟩

theorem add_from (query : Query) (item : Table) : IsPartOf query (query.addFrom item) :=
  ⟨.inr rfl, List.prefix_rfl, List.prefix_rfl, List.prefix_append ..⟩

theorem set_statement (query : Query) (kind : StatementKind) (unset : query.statement? = none) :
    IsPartOf query { query with statement? := some kind } :=
  ⟨.inl unset, List.prefix_rfl, List.prefix_rfl, List.prefix_rfl⟩

end IsPartOf

-- The statement is not set before its keyword, and a table is not given an alias before its name.
def State.Consistent : State → Query → Prop
  | .start, query => query.statement? = none
  | .columns _, _ => True
  | .tables item, _ => item.alias? = none ∨ item.name ≠ ""

theorem step_consistent (state following : State) (query changed : Query) (tokens rest : List Token)
    (step : Step state query tokens (some following) changed rest) (consistent : state.Consistent query) :
    following.Consistent changed := by
  cases step with
  | comment query token rest isComment => exact consistent
  | select query token rest isSelect => exact trivial
  | unit item query unit rest ends seen => exact trivial
  | column item query comma rest isComma valid => exact trivial
  | source item query token rest isFrom valid => exact .inl rfl
  | name item query token rest isName free =>
      by_cases named : item.name = ""
      · exact .inl (by simp [addName, named, free])
      · exact .inr (by simp [addName, named])
  | table item query comma rest isComma valid => exact .inl rfl

section Continuations

theorem tables_continue (item : Table) (query : Query) (consistent : (State.tables item).Consistent query) :
    Continues Step (.tables item) query [] := by
  by_cases named : item.name = ""
  · have free := consistent.resolve_right (not_not_intro named)
    have first := Step.name item query ⟨.identifier, "t", 1⟩ [⟨.endOfInput, "", 1⟩] rfl free
    have last := Step.stop (addName item "t") query ⟨.endOfInput, "", 1⟩ [] (.inl rfl)
      (by simp [addName, named, Table.isValid])
    exact ⟨_, _, .more _ _ _ _ _ _ _ first (.last _ _ _ _ _ last)⟩
  · have last := Step.stop item query ⟨.endOfInput, "", 1⟩ [] (.inl rfl) (by simp [Table.isValid, named])
    exact ⟨_, _, .last _ _ _ _ _ last⟩

theorem star_accepted (item : Column) (query : Query) :
    ∃ rest result, Accepts Step (.columns item) query (⟨.operator, Column.wildcard, 1⟩ :: rest) result := by
  have reading (query : Query) : Continues Step (.tables {}) query [] := tables_continue {} query (.inl rfl)
  obtain ⟨rest, result, accepts⟩ := reading (query.addSelect { item with column := Column.wildcard })
  have star := Step.unit item query (.wildcard ⟨.operator, Column.wildcard, 1⟩ ⟨rfl, rfl⟩)
    (Keyword.FROM.token 1 :: rest) nofun nofun
  have source := Step.source { item with column := Column.wildcard } query (Keyword.FROM.token 1) rest
    (keyword_token_spelled .FROM 1) (by simp [Column.isValid, Column.wildcard])
  exact ⟨_, result, .more _ _ _ _ _ _ _ star (.more _ _ _ _ _ _ _ source accepts)⟩

theorem columns_continue (item : Column) (query : Query) : Continues Step (.columns item) query [] := by
  obtain ⟨rest, result, accepts⟩ := star_accepted item query
  exact ⟨_, result, accepts⟩

theorem name_continues (item : Column) (query : Query) (name : Token) (isName : name.kind.isName = true) :
    Continues Step (.columns item) query [name] := by
  obtain ⟨rest, result, accepts⟩ := star_accepted ((ColumnUnit.plain name isName).extend item) query
  have ends : (ColumnUnit.plain name isName).EndsBefore (⟨.operator, Column.wildcard, 1⟩ :: rest) := by
    rintro _ _ ⟨⟩
    exact ⟨nofun, nofun⟩
  have step := Step.unit item query (.plain name isName) _ ends fun _ => ⟨_, _, rfl, nofun⟩
  exact ⟨_, result, .more _ _ _ _ _ _ _ step accepts⟩

theorem as_continues (item : Column) (query : Query) (word : Token) (isAs : word.isKeyword .AS = true) :
    Continues Step (.columns item) query [word] := by
  have step (rest : List Token) := Step.unit item query (.asAlias word ⟨.identifier, "a", 1⟩ isAs rfl) rest nofun nofun
  exact continues_more [⟨.identifier, "a", 1⟩] step (columns_continue _ query)

theorem start_continues (query : Query) : Continues Step .start query [] :=
  continues_more [Keyword.SELECT.token 1] (fun rest => .select query _ rest (keyword_token_spelled .SELECT 1))
    (columns_continue {} _)

theorem state_continues (state : State) (query : Query) (consistent : state.Consistent query) :
    Continues Step state query [] := by
  cases state with
  | start => exact start_continues query
  | columns item => exact columns_continue item query
  | tables item => exact tables_continue item query consistent

end Continuations

section Reading

abbrev Reads (state : State) (query : Query) (before : List Token) (action : ParseM Query (Option State)) : Prop :=
  Reading IsPartOf (Continues Step state query) query before none action

theorem read_start_reads (query : Query) (token : Token) (unset : query.statement? = none) :
    Reads .start query [token] (readStart token) := by
  unfold readStart
  split
  · exact reading_commit (.add_comment query _) (.pure ..)
  · exact reading_commit (.add_comment query _) (.pure ..)
  · split
    · exact .change _ _ _ _ _ (.set_statement query .select unset) (.pure ..)
    · exact .fail _ _ _ _ (.unsupported _)
  · exact .fail _ _ _ _ (.unexpected _ _)

theorem read_column_name_reads (item : Column) (query : Query) (name : Token) (isName : name.kind.isName = true) :
    Reads (.columns item) query [name] (readColumnName item name) := by
  refine .peek _ _ _ (name_continues item query name isName) fun following => ?_
  split
  · exact reading_skip (.pure ..)
  · exact .take _ _ _ _ (.pure ..)
  · exact .pure ..

theorem read_alias_reads (item : Column) (query : Query) (word : Token) (isAs : word.isKeyword .AS = true) :
    Reads (.columns item) query [word] (readAlias item) := by
  refine .next _ _ _ (as_continues item query word isAs) fun label => ?_
  split
  · exact .pure ..
  · exact .fail _ _ _ _ (.not_found _ _)

theorem read_column_reads (item : Column) (query : Query) (token : Token) :
    Reads (.columns item) query [token] (readColumn item token) := by
  unfold readColumn
  split
  · exact reading_commit (.add_select query item) (.pure ..)
  · split
    · exact reading_commit (.add_select query item) (.pure ..)
    · split
      · rename_i isAs
        exact read_alias_reads item query token isAs
      · exact .fail _ _ _ _ (.unexpected _ _)
  · rename_i kind
    exact read_column_name_reads item query token (by rw [kind]; rfl)
  · rename_i kind
    exact read_column_name_reads item query token (by rw [kind]; rfl)
  · split
    · exact .pure ..
    · exact .fail _ _ _ _ (.unexpected _ _)
  · exact .fail _ _ _ _ (.unexpected _ _)

theorem read_table_name_reads (item : Table) (query : Query) (token : Token) :
    Reads (.tables item) query [token] (readTableName item token) := by
  unfold readTableName
  split
  · exact .fail _ _ _ _ (.ambiguous _ _ _)
  · split
    · exact .pure ..
    · exact .pure ..

theorem read_table_reads (item : Table) (query : Query) (token : Token) :
    Reads (.tables item) query [token] (readTable item token) := by
  unfold readTable
  split
  · exact reading_commit (.add_from query item) (.pure ..)
  · split
    · exact reading_commit (.add_from query item) (.pure ..)
    · exact .fail _ _ _ _ (.unexpected _ _)
  · exact read_table_name_reads item query token
  · exact read_table_name_reads item query token
  · exact reading_commit (.add_from query item) (.pure ..)
  · exact reading_commit (.add_from query item) (.pure ..)
  · exact .fail _ _ _ _ (.unexpected _ _)

theorem step_reads (state : State) (query : Query) (consistent : state.Consistent query) :
    Reads state query [] (grammar.step state) := by
  refine .next _ _ _ (state_continues state query consistent) fun token => ?_
  cases state with
  | start => exact read_start_reads query token consistent
  | columns item => exact read_column_reads item query token
  | tables item => exact read_table_reads item query token

end Reading

theorem grammar_incremental : grammar.Incremental Step IsPartOf State.Consistent where
  describes := grammar_describes
  refl := IsPartOf.refl
  trans := IsPartOf.trans
  keeps := step_consistent
  reads := step_reads

theorem run_looks (front : List Token) (readable : Readable front) :
    Grammar.RunLooks Step IsPartOf grammar .start {} front :=
  grammar.run_looks grammar_incremental .start {} front 0 readable rfl

end SqlOutline.Query
