import SqlOutline.Proofs.Query.Faults
import SqlOutline.Proofs.Token.Provenance

set_option autoImplicit false

namespace SqlOutline

-- The table and the alias of a column come from the text. The column itself can still be missing.
structure Column.Sourced (tokens : List Token) (item : Column) : Prop where
  table : ∀ text ∈ item.table?, TextOf tokens [.identifier, .backtickedIdentifier] text
  label : ∀ text ∈ item.alias?, TextOf tokens [.identifier] text

structure Column.WellFormed (tokens : List Token) (item : Column) : Prop extends Column.Sourced tokens item where
  column : item.column ≠ ""

structure Table.WellFormed (tokens : List Token) (item : Table) : Prop where
  name : TextOf tokens [.identifier, .backtickedIdentifier] item.name
  label : ∀ text ∈ item.alias?, TextOf tokens [.identifier, .backtickedIdentifier] text

namespace Query

structure WellFormed (tokens : List Token) (query : Query) : Prop where
  comments : CommentsOf tokens query.comments
  unset : query.statement? = none → query.selects = [] ∧ query.froms = []
  listed : query.froms ≠ [] → query.selects ≠ []
  columns : ∀ item ∈ query.selects, item.WellFormed tokens
  tables : ∀ item ∈ query.froms, item.WellFormed tokens

structure Complete (query : Query) : Prop where
  statement : query.statement? = some .select
  selects : query.selects ≠ []
  froms : query.froms ≠ []

def State.Fits (all : List Token) : State → Query → Prop
  | .start, query => query.statement? = none ∧ query.selects = [] ∧ query.froms = []
  | .columns item, query => query.statement? = some .select ∧ query.froms = [] ∧ item.Sourced all
  | .tables item, query =>
      query.statement? = some .select ∧ query.selects ≠ [] ∧ (item = {} ∨ item.WellFormed all)

structure Reached (all : List Token) (state : State) (query : Query) (tokens : List Token) : Prop where
  comments : CommentsBefore all tokens query.comments
  columns : ∀ item ∈ query.selects, item.WellFormed all
  tables : ∀ item ∈ query.froms, item.WellFormed all
  fits : state.Fits all query

variable {all tokens rest : List Token} {query changed : Query} {state following : State} {token : Token}

theorem State.Fits.unset (fits : state.Fits all query) (missing : query.statement? = none) :
    query.selects = [] ∧ query.froms = [] := by
  cases state with
  | start => exact fits.2
  | columns item | tables item => exact absurd (fits.1.symm.trans missing) (Option.some_ne_none _)

theorem State.Fits.listed (fits : state.Fits all query) (listed : query.froms ≠ []) : query.selects ≠ [] := by
  cases state with
  | start => exact absurd fits.2.2 listed
  | columns item => exact absurd fits.2.1 listed
  | tables item => exact fits.2.1

theorem Reached.well_formed (reached : Reached all state query tokens) : query.WellFormed all :=
  ⟨reached.comments.comments_of, reached.fits.unset, reached.fits.listed, reached.columns, reached.tables⟩

theorem reached_start (all : List Token) : Reached all .start {} all :=
  ⟨.start all, nofun, nofun, rfl, rfl, rfl⟩

section Items

theorem sourced_empty : Column.Sourced all {} :=
  ⟨nofun, nofun⟩

theorem sourced_unit (item : Column) (unit : ColumnUnit) (written : TokensWritten all)
    (members : ∀ token ∈ unit.tokens, token ∈ all) (sourced : item.Sourced all) : (unit.extend item).Sourced all := by
  cases unit with
  | asAlias word name isAs isName =>
      have label := text_of_identifier written (members name (.tail _ (.head _))) isName
      exact ⟨sourced.table, fun _ same => Option.some.inj same ▸ label⟩
  | qualifier name dot isName isDot =>
      have table := text_of_name written (members name (.head _)) isName
      exact ⟨fun _ same => Option.some.inj same ▸ table, sourced.label⟩
  | aliased name label isName isLabel =>
      have label := text_of_identifier written (members label (.tail _ (.head _))) isLabel
      exact ⟨sourced.table, fun _ same => Option.some.inj same ▸ label⟩
  | plain name isName => exact ⟨sourced.table, sourced.label⟩
  | wildcard star isStar => exact ⟨sourced.table, sourced.label⟩

theorem column_well_formed (item : Column) (sourced : item.Sourced all) (valid : item.isValid = true) :
    item.WellFormed all :=
  ⟨sourced, by simpa [Column.isValid] using valid⟩

theorem table_name (item : Table) (token : Token) (written : TokensWritten all) (member : token ∈ all)
    (isName : token.kind.isName = true) (known : item = {} ∨ item.WellFormed all) :
    (addName item token.text).WellFormed all := by
  have text := text_of_name written member isName
  rcases known with rfl | wellFormed
  · exact ⟨text, nofun⟩
  · have named : item.name.isEmpty = false := by simpa using wellFormed.name.written
    rw [addName, named]
    exact ⟨wellFormed.name, fun _ same => Option.some.inj same ▸ text⟩

theorem table_well_formed (item : Table) (known : item = {} ∨ item.WellFormed all) (valid : item.isValid = true) :
    item.WellFormed all := by
  rcases known with rfl | wellFormed
  · contradiction
  · exact wellFormed

end Items

theorem reached_add_select (item : Column) (reached : Reached all (.columns item) query (token :: rest))
    (valid : item.isValid = true) : Reached all (.columns {}) (query.addSelect item) rest := by
  obtain ⟨comments, columns, tables, statement, unlisted, sourced⟩ := reached
  have wellFormed := column_well_formed item sourced valid
  have extended := List.forall_mem_append.mpr ⟨columns, List.forall_mem_singleton.mpr wellFormed⟩
  exact ⟨comments.tail, extended, tables, statement, unlisted, sourced_empty⟩

theorem reached_add_from (item : Table) (reached : Reached all (.tables item) query (token :: rest))
    (valid : item.isValid = true) : Reached all (.tables {}) (query.addFrom item) rest := by
  obtain ⟨comments, columns, tables, statement, listed, known⟩ := reached
  have wellFormed := table_well_formed item known valid
  have extended := List.forall_mem_append.mpr ⟨tables, List.forall_mem_singleton.mpr wellFormed⟩
  exact ⟨comments.tail, columns, extended, statement, listed, .inl rfl⟩

theorem reached_step (written : TokensWritten all) (step : Step state query tokens (some following) changed rest)
    (ahead : Ahead all tokens) (reached : Reached all state query tokens) : Reached all following changed rest := by
  have ⟨comments, columns, tables, fits⟩ := reached
  cases step with
  | comment _ token _ isComment =>
      have text := written token ahead.mem (TokenKind.comment_goes_on _ isComment)
      exact ⟨comments.comment isComment text, columns, tables, fits⟩
  | select _ token _ isSelect => exact ⟨comments.tail, columns, tables, rfl, fits.2.2, sourced_empty⟩
  | unit item _ unit _ _ _ =>
      have members (token : Token) (among : token ∈ unit.tokens) := ahead.suffix.mem (List.mem_append_left rest among)
      have sourced := sourced_unit item unit written members fits.2.2
      exact ⟨comments.drop unit.tokens, columns, tables, fits.1, fits.2.1, sourced⟩
  | column item _ comma _ isComma valid => exact reached_add_select item reached valid
  | source item _ token _ isFrom valid =>
      have added := reached_add_select item reached valid
      exact ⟨added.comments, added.columns, added.tables, added.fits.1, List.concat_ne_nil _ _, .inl rfl⟩
  | name item _ token _ isName free =>
      have wellFormed := table_name item token written ahead.mem isName fits.2.2
      exact ⟨comments.tail, columns, tables, fits.1, fits.2.1, .inr wellFormed⟩
  | table item _ comma _ isComma valid => exact reached_add_from item reached valid

theorem reached_last (step : Step state query tokens none changed rest) (reached : Reached all state query tokens) :
    changed.WellFormed all ∧ changed.Complete := by
  cases step with
  | stop item _ token _ isStop valid =>
      have added := reached_add_from item reached valid
      exact ⟨added.well_formed, added.fits.1, added.fits.2.1, List.concat_ne_nil _ _⟩

theorem run_maintains (written : TokensWritten all) :
    Grammar.Maintains all Step Leaves (Reached all) (WellFormed all) fun query => query.WellFormed all ∧ query.Complete where
  step _ _ _ _ _ _ step ahead reached := reached_step written step ahead reached
  last _ _ _ _ _ step reached := reached_last step reached
  stop _ _ _ _ same reached := same ▸ reached.well_formed

theorem parse_query_well_formed (sql : String) :
    (parse sql).value.WellFormed (tokenize sql) ∧ ((parse sql).error? = none → (parse sql).value.Complete) := by
  have written := tokens_written_tokenize sql
  have accounts := grammar.run_accounts (grammar_accountable (tokenize sql)) (run_maintains written) .start {} _ 0
    (ahead_of_tokenize sql) (reached_start _)
  exact ⟨accounts.left fun _ whole => whole.1, fun clean => (accounts.whole clean).2⟩

theorem parse_query_well_formed_aliases :
    (parse "-- all\nSELECT u.a b, * FROM `users` u").error? = none ∧
      (parse "-- all\nSELECT u.a b, * FROM `users` u").value =
        ⟨some .select, ["-- all"], [⟨some "u", "a", some "b"⟩, ⟨none, "*", none⟩], [⟨"`users`", some "u"⟩]⟩ ∧
      (parse "-- all\nSELECT u.a b, * FROM `users` u").value.WellFormed
        (tokenize "-- all\nSELECT u.a b, * FROM `users` u") ∧
      (parse "-- all\nSELECT u.a b, * FROM `users` u").value.Complete :=
  have clean : (parse "-- all\nSELECT u.a b, * FROM `users` u").error? = none :=
    Option.isNone_iff_eq_none.mp (by decide +kernel)
  have read := parse_query_well_formed "-- all\nSELECT u.a b, * FROM `users` u"
  ⟨clean, by decide +kernel, read.1, read.2 clean⟩

end Query

end SqlOutline
