import SqlOutline.Proofs.Parser.Faults
import SqlOutline.Proofs.Query.Step

set_option autoImplicit false

namespace SqlOutline.Query

open SqlOutline.Parser

-- A step that stops adds nothing to the query.
def Leaves (_ : State) (query changed : Query) : Prop :=
  changed = query

theorem ColumnUnit.goes_on (unit : ColumnUnit) : ∀ token ∈ unit.tokens, token.kind.endsStream = false := by
  cases unit with
  | asAlias word name isAs isName =>
      have first := word.keyword_goes_on .AS isAs
      have second : name.kind.endsStream = false := by rw [isName]; rfl
      simp [tokens, first, second]
  | qualifier name dot isName isDot =>
      have first := TokenKind.name_goes_on _ isName
      have second : dot.kind.endsStream = false := by rw [isDot]; rfl
      simp [tokens, first, second]
  | aliased name label isName isLabel =>
      have first := TokenKind.name_goes_on _ isName
      have second : label.kind.endsStream = false := by rw [isLabel]; rfl
      simp [tokens, first, second]
  | plain name isName => exact List.forall_mem_singleton.mpr (TokenKind.name_goes_on _ isName)
  | wildcard star isStar => exact List.forall_mem_singleton.mpr (by rw [isStar.1]; rfl)

theorem step_goes_on (all tokens rest : List Token) (state following : State) (query changed : Query)
    (step : Step state query tokens (some following) changed rest) (ahead : Ahead all tokens) : Ahead all rest := by
  cases step with
  | comment _ token _ isComment => exact ahead.tail (TokenKind.comment_goes_on _ isComment)
  | select _ token _ isSelect => exact ahead.tail (token.keyword_goes_on .SELECT isSelect)
  | unit _ _ unit _ _ _ => exact ahead.drop unit.goes_on
  | column _ _ comma _ isComma _ => exact ahead.tail (by rw [isComma]; rfl)
  | source _ _ token _ isFrom _ => exact ahead.tail (token.keyword_goes_on .FROM isFrom)
  | name _ _ token _ isName _ => exact ahead.tail (TokenKind.name_goes_on _ isName)
  | table _ _ comma _ isComma _ => exact ahead.tail (by rw [isComma]; rfl)

abbrev Stops (all : List Token) (query : Query) (rest : List Token) (consumed : Nat)
    (action : ParseM Query (Option State)) : Prop :=
  Blames all (· = query) action ⟨query, ⟨rest, consumed⟩, none⟩ (Recorded all (· = query))

variable {all rest : List Token} {token : Token}

theorem read_start_stops (query : Query) (consumed : Nat) (ahead : Ahead all (token :: rest))
    (readable : token.kind ≠ .error) : Stops all query rest consumed (readStart token) := by
  unfold readStart
  split
  · exact blames_bind (blames_commit rfl (blames_pure nofun))
  · exact blames_bind (blames_commit rfl (blames_pure nofun))
  · rename_i isKeyword
    split
    · exact blames_bind (blames_change (blames_pure nofun))
    · exact blames_fail (.unsupported isKeyword ahead.mem) rfl
  · exact blames_fail (.unexpected _ readable ahead.mem) rfl

theorem read_column_name_stops (item : Column) (query : Query) (consumed : Nat) (ahead : Ahead all (token :: rest))
    (isName : token.kind.isName = true) : Stops all query rest consumed (readColumnName item token) := by
  have following := ahead.tail (TokenKind.name_goes_on _ isName)
  refine blames_bind (blames_peek following rfl fun next others pending readable => ?_)
  split
  · exact blames_bind (blames_skip following rfl fun _ _ _ => blames_pure nofun)
  · exact blames_bind (blames_next following rfl fun _ _ _ _ => blames_pure nofun)
  · exact blames_pure nofun

theorem read_alias_stops (item : Column) (query : Query) (consumed : Nat) (ahead : Ahead all rest) :
    Stops all query rest consumed (readAlias item) := by
  refine blames_bind (blames_next ahead rfl fun label others pending readable => ?_)
  subst pending
  split
  · exact blames_pure nofun
  · exact blames_fail (.not_found _ readable ahead.mem) rfl

theorem read_column_stops (item : Column) (query : Query) (consumed : Nat) (ahead : Ahead all (token :: rest))
    (readable : token.kind ≠ .error) : Stops all query rest consumed (readColumn item token) := by
  have unexpected (state : String) : Stops all query rest consumed (fail (.unexpected state token)) :=
    blames_fail (.unexpected state readable ahead.mem) rfl
  unfold readColumn
  split
  · exact blames_bind (blames_commit rfl (blames_pure nofun))
  · split
    · exact blames_bind (blames_commit rfl (blames_pure nofun))
    · split
      · rename_i isAs
        exact read_alias_stops item query consumed (ahead.tail (token.keyword_goes_on .AS isAs))
      · exact unexpected _
  · rename_i kind
    exact read_column_name_stops item query consumed ahead (by rw [kind]; rfl)
  · rename_i kind
    exact read_column_name_stops item query consumed ahead (by rw [kind]; rfl)
  · split
    · exact blames_pure nofun
    · exact unexpected _
  · exact unexpected _

theorem read_table_name_stops (item : Table) (query : Query) (consumed : Nat) (ahead : Ahead all (token :: rest))
    (isName : token.kind.isName = true) : Stops all query rest consumed (readTableName item token) := by
  unfold readTableName
  split
  · exact blames_fail (.ambiguous _ _ isName ahead.mem) rfl
  · split
    · exact blames_pure nofun
    · exact blames_pure nofun

theorem read_table_stops (item : Table) (query : Query) (consumed : Nat) (ahead : Ahead all (token :: rest))
    (readable : token.kind ≠ .error) : Stops all query rest consumed (readTable item token) := by
  have unexpected (state : String) : Stops all query rest consumed (fail (.unexpected state token)) :=
    blames_fail (.unexpected state readable ahead.mem) rfl
  unfold readTable
  split
  · exact blames_bind (blames_commit rfl (blames_pure nofun))
  · split
    · exact blames_bind (blames_commit rfl (blames_pure nofun))
    · exact unexpected _
  · rename_i kind
    exact read_table_name_stops item query consumed ahead (by rw [kind]; rfl)
  · rename_i kind
    exact read_table_name_stops item query consumed ahead (by rw [kind]; rfl)
  · exact blames_bind (blames_commit rfl (blames_pure nofun))
  · exact blames_bind (blames_commit rfl (blames_pure nofun))
  · exact unexpected _

theorem step_stops (state : State) (query : Query) (tokens : List Token) (consumed : Nat) (ahead : Ahead all tokens) :
    Stops all query tokens consumed (grammar.step state) := by
  refine blames_bind (blames_next ahead rfl fun token rest pending readable => ?_)
  subst pending
  cases state with
  | start => exact read_start_stops query (consumed + 1) ahead readable
  | columns item => exact read_column_stops item query (consumed + 1) ahead readable
  | tables item => exact read_table_stops item query (consumed + 1) ahead readable

theorem grammar_accountable (all : List Token) : grammar.Accountable all Step Leaves where
  describes := grammar_describes
  goesOn state following query changed tokens rest := step_goes_on all tokens rest state following query changed
  stops state query tokens consumed ahead := step_stops state query tokens consumed ahead

theorem parse_error_about (sql : String) : ∀ error ∈ (parse sql).error?, error.IsAbout (tokenize sql) :=
  grammar.run_error_about (grammar_accountable (tokenize sql)) .start {} _ 0 (ahead_of_tokenize sql)

end SqlOutline.Query
