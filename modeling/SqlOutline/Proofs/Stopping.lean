import SqlOutline.Proofs.Parser.Clauses
import SqlOutline.Query.Grammar
import SqlOutline.TableDefinition.Grammar

set_option autoImplicit false

namespace SqlOutline.Query

open SqlOutline.Parser

-- A token ends the clause where a comma or FROM does, and before the list of columns each token is a clause of its own.
-- Nothing reads what comes after WHERE or the start of a join.
def reader : Reader Query State where
  read := read
  forward := forward_read
  closes
    | .start, _ => true
    | .columns _, token => token.kind == .comma || token.isKeyword .FROM
    | .tables _, token => token.kind == .comma
  abandons
    | .tables _, token => token.isKeyword .WHERE || token.isOneOf joinKeywords
    | _, _ => false

section Resolves

variable {all : List Token} {before : Parser Query} (clean : Clean all before)

include clean

theorem read_start_resolves (token : Token) : Reports all (readStart token) (readStart token) before (Resolved all) := by
  unfold readStart
  split
  · exact commit_resolves clean
  · exact commit_resolves clean
  · split
    · exact reports_bind (reports_change clean fun _ changed => reports_pure (changed.resolved _))
    · exact reports_fail clean nofun
  · exact reports_fail clean nofun

theorem read_column_name_resolves (item : Column) (name : Token) :
    Reports all (readColumnName item name) (readColumnName item name) before (Resolved all) := by
  refine reports_bind (reports_peek clean fun following => ?_)
  split
  · exact skip_resolves clean
  · exact reports_bind (reports_next clean fun _ _ taken => reports_pure (taken.resolved _))
  · exact reports_pure (clean.resolved _)

theorem read_alias_resolves (item : Column) : Reports all (readAlias item) (readAlias item) before (Resolved all) := by
  refine reports_bind (reports_next clean fun label middle taken => ?_)
  split
  · exact reports_pure (taken.resolved _)
  · exact reports_fail taken nofun

theorem read_column_resolves (item : Column) (token : Token) : Reports all (readColumn item token) (readColumn item token) before (Resolved all) := by
  unfold readColumn
  split
  · exact commit_resolves clean
  · split
    · exact commit_resolves clean
    · split
      · exact read_alias_resolves clean item
      · exact reports_fail clean nofun
  · exact read_column_name_resolves clean item token
  · exact read_column_name_resolves clean item token
  · split
    · exact reports_pure (clean.resolved _)
    · exact reports_fail clean nofun
  · exact reports_fail clean nofun

theorem read_table_name_resolves (item : Table) (name : Token) :
    Reports all (readTableName item name) (readTableName item name) before (Resolved all) := by
  unfold readTableName
  split
  · exact reports_fail clean nofun
  · split <;> exact reports_pure (clean.resolved _)

theorem read_table_resolves (item : Table) (token : Token) : Reports all (readTable item token) (readTable item token) before (Resolved all) := by
  unfold readTable
  split
  · exact commit_resolves clean
  · split
    · exact commit_resolves clean
    · exact reports_fail clean nofun
  · exact read_table_name_resolves clean item token
  · exact read_table_name_resolves clean item token
  · exact commit_resolves clean
  · exact commit_resolves clean
  · exact reports_fail clean nofun

end Resolves

theorem reader_resolves : reader.Resolves := by
  intro all state token before clean
  cases state with
  | start => exact read_start_resolves clean token
  | columns item => exact read_column_resolves clean item token
  | tables item => exact read_table_resolves clean item token

end SqlOutline.Query

namespace SqlOutline.TableDefinition

open SqlOutline.Parser

-- Only among the columns does a clause have more than one token of its own. A comma ends it there.
def reader : Reader TableDefinition State where
  read := read
  forward := forward_read
  closes
    | .columns _, token => token.kind == .comma
    | _, _ => true
  abandons _ _ := false

section Resolves

variable {all : List Token} {before : Parser TableDefinition} (clean : Clean all before)

include clean

theorem read_start_resolves (token : Token) : Reports all (readStart token) (readStart token) before (Resolved all) := by
  unfold readStart
  split
  · exact commit_resolves clean
  · exact commit_resolves clean
  · split
    · exact reports_pure (clean.resolved _)
    · exact reports_fail clean nofun
  · exact reports_fail clean nofun

theorem read_object_resolves (token : Token) : Reports all (readObject token) (readObject token) before (Resolved all) := by
  unfold readObject
  split
  · exact commit_resolves clean
  · exact commit_resolves clean
  · split
    · exact reports_pure (clean.resolved _)
    · exact reports_fail clean nofun
  · exact reports_fail clean nofun

theorem read_name_resolves (token : Token) : Reports all (readName token) (readName token) before (Resolved all) := by
  unfold readName
  split
  · refine reports_bind (reports_change clean fun _ changed => ?_)
    refine reports_bind (reports_next changed fun opening _ taken => ?_)
    split
    · exact reports_pure (taken.resolved _)
    · exact reports_fail taken nofun
  · exact reports_fail clean nofun

theorem read_size_reports (item : ColumnDefinition) :
    Reports all (readSize item) (readSize item) before fun _ after => Clean all after := by
  refine reports_bind (reports_next clean fun size _ taken => ?_)
  split
  · refine reports_bind (reports_next taken fun closing _ taken => ?_)
    split
    · exact reports_pure taken
    · exact reports_throw taken nofun
  · exact reports_throw taken nofun

theorem read_operator_reports (item : ColumnDefinition) (operator : String) :
    Reports all (readOperator item operator) (readOperator item operator) before fun _ after => Clean all after := by
  refine reports_bind (reports_next clean fun token _ taken => ?_)
  split
  · exact reports_pure taken
  · exact reports_throw taken nofun

theorem read_element_size_reports (item : ColumnDefinition) :
    Reports all (readElementSize item) (readElementSize item) before fun _ after => Clean all after := by
  refine reports_bind (reports_peek clean fun token => ?_)
  split
  · refine reports_bind (reports_skip clean fun _ taken => ?_)
    exact reports_bind ((read_size_reports taken item).imp fun _ _ sized => reports_pure sized)
  · exact reports_pure clean

theorem read_array_resolves (item : ColumnDefinition) : Reports all (readArray item) (readArray item) before (Resolved all) := by
  refine reports_bind ((read_operator_reports clean item "<").imp fun _ _ opened => ?_)
  refine reports_bind (reports_next opened fun element _ taken => ?_)
  split
  · refine reports_bind ((read_element_size_reports taken _).imp fun item _ sized => ?_)
    exact reports_bind ((read_operator_reports sized item ">").imp fun _ _ closed => reports_pure (closed.resolved _))
  · exact reports_throw taken nofun

theorem read_word_resolves (wanted : Token → Prop) [DecidablePred wanted] (what : String) (following : ColumnDefinition) :
    Reports all (readWord wanted what following) (readWord wanted what following) before (Resolved all) := by
  refine reports_bind (reports_peek clean fun token => ?_)
  split
  · exact skip_resolves clean
  · exact reports_bind (reports_next clean fun _ _ taken => reports_fail taken nofun)

theorem read_column_resolves (item : ColumnDefinition) (token : Token) :
    Reports all (readColumn item token) (readColumn item token) before (Resolved all) := by
  unfold readColumn
  split
  · split
    · exact read_word_resolves clean _ _ _
    · exact read_word_resolves clean _ _ _
    · exact read_array_resolves clean item
    · exact reports_fail clean nofun
  · exact reports_pure (clean.resolved _)
  · exact reports_pure (clean.resolved _)
  · exact reports_bind ((read_size_reports clean item).imp fun _ _ sized => reports_pure (sized.resolved _))
  · exact commit_resolves clean
  · exact commit_resolves clean
  · exact reports_fail clean nofun

end Resolves

theorem reader_resolves : reader.Resolves := by
  intro all state token before clean
  cases state with
  | start => exact read_start_resolves clean token
  | object => exact read_object_resolves clean token
  | name => exact read_name_resolves clean token
  | columns item => exact read_column_resolves clean item token

end SqlOutline.TableDefinition

namespace SqlOutline

-- The grammars take their steps token by token. Clause by clause there are fewer calls, and the parse is the same.
theorem parses_stop (tokens : List Token) :
    (Query.grammar.Stops Query.step .start {} tokens ∧
      Query.reader.clausewise.Stops (Query.reader.clauseStep Traced.progress) (.reads .start) {} tokens ∧
      Query.reader.clausewise.run (.reads .start) (Parser.ofTokens {} tokens) = Query.ofTokens tokens) ∧
    (TableDefinition.grammar.Stops TableDefinition.step .start {} tokens ∧
      TableDefinition.reader.clausewise.Stops (TableDefinition.reader.clauseStep Traced.progress) (.reads .start) {} tokens ∧
      TableDefinition.reader.clausewise.run (.reads .start) (Parser.ofTokens {} tokens) = TableDefinition.ofTokens tokens) :=
  ⟨Reader.stops Query.reader_resolves .start {} tokens, Reader.stops TableDefinition.reader_resolves .start {} tokens⟩

-- What comes after the name of a column is looked at, and there is nothing. A number is no name for a table, but it is there.
theorem parses_stop_cut_short :
    ((Query.grammar.calls .start (Parser.ofTokens {} [⟨.keyword, "SELECT", 1⟩, ⟨.identifier, "a", 1⟩])).map
        (Grammar.Call.requests Query.step) = [[2], [1, 0]] ∧
      (Query.ofTokens [⟨.keyword, "SELECT", 1⟩, ⟨.identifier, "a", 1⟩]).error? = some .noToken) ∧
    ((TableDefinition.grammar.calls .start
        (Parser.ofTokens {} [⟨.keyword, "CREATE", 1⟩, ⟨.keyword, "TABLE", 1⟩, ⟨.number, "7", 1⟩])).map
        (Grammar.Call.requests TableDefinition.step) = [[3], [2], [1]] ∧
      (TableDefinition.ofTokens [⟨.keyword, "CREATE", 1⟩, ⟨.keyword, "TABLE", 1⟩, ⟨.number, "7", 1⟩]).error? ≠
        some .noToken) := by
  constructor
  · have requests : (Query.grammar.calls .start (Parser.ofTokens {} [⟨.keyword, "SELECT", 1⟩, ⟨.identifier, "a", 1⟩])).map
        (Grammar.Call.requests Query.step) = [[2], [1, 0]] := by decide +kernel
    refine ⟨requests, (parses_stop _).1.1.missing.mpr ?_⟩
    have asked : [1, 0] ∈ [[2], [1, 0]] := by decide
    rw [← requests] at asked
    obtain ⟨call, member, same⟩ := List.mem_map.mp asked
    exact ⟨call, member, by simp [same]⟩
  · have requests : (TableDefinition.grammar.calls .start
        (Parser.ofTokens {} [⟨.keyword, "CREATE", 1⟩, ⟨.keyword, "TABLE", 1⟩, ⟨.number, "7", 1⟩])).map
        (Grammar.Call.requests TableDefinition.step) = [[3], [2], [1]] := by decide +kernel
    refine ⟨requests, fun missing => ?_⟩
    obtain ⟨call, member, late⟩ := (parses_stop _).2.1.missing.mp missing
    have asked := List.mem_map_of_mem (f := Grammar.Call.requests TableDefinition.step) member
    rw [requests] at asked
    simp only [List.mem_cons, List.not_mem_nil, or_false] at asked
    rcases asked with same | same | same <;> simp [same] at late

end SqlOutline
