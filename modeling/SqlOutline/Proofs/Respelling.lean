import SqlOutline.Proofs.Query.Respelling
import SqlOutline.Proofs.TableDefinition.Respelling
import SqlOutline.Proofs.Token.Capitals
import SqlOutline.Proofs.Token.Spacing

set_option autoImplicit false

namespace SqlOutline

namespace ParseError

def withoutLine (error : ParseError) : ParseError :=
  error.map id fun _ => 0

-- The same error on the same line, with all that it quotes from the text in capitals.
def inCapitals (error : ParseError) : ParseError :=
  error.map upperCase id

end ParseError

theorem errors_of_alike {respelling : Respelling} {error? other? : Option ParseError}
    (alike : Option.Rel (ParseError.Respells respelling) error? other?) :
    other?.map (ParseError.map respelling.text respelling.line) = error?.map (ParseError.map respelling.text respelling.line) := by
  cases alike with
  | some same => exact congrArg some same
  | none => rfl

theorem Query.respell_id (query : Query) : query.respell id = query := by
  have columns : Column.respell id = id := by
    funext item
    simp [Column.respell]
  have tables : Table.respell id = id := by
    funext item
    simp [Table.respell]
  simp [Query.respell, columns, tables]

theorem TableDefinition.respell_id (definition : TableDefinition) : definition.respell id = definition := by
  have columns : ColumnDefinition.respell id = id := rfl
  simp [TableDefinition.respell, columns]

structure SameMeaning (sql other : String) : Prop where
  tokens : (tokenize other).map (fun token => (token.kind, token.text)) =
    (tokenize sql).map fun token => (token.kind, token.text)
  query : (Query.parse other).value = (Query.parse sql).value
  queryError : (Query.parse other).error?.map ParseError.withoutLine = (Query.parse sql).error?.map ParseError.withoutLine
  definition : (TableDefinition.parse other).value = (TableDefinition.parse sql).value
  definitionError : (TableDefinition.parse other).error?.map ParseError.withoutLine =
    (TableDefinition.parse sql).error?.map ParseError.withoutLine

theorem Layout.same_meaning (layout : Layout) (gaps : List String) (sql : String) (divides : layout.Divides sql)
    (respaces : layout.Respaces gaps) : SameMeaning sql (layout.respaced gaps) := by
  have reads : Lexer.tokens ⟨layout.text.toList, 1, .gap⟩ = layout.tokens := by
    rw [divides.text]
    exact divides.tokens.symm
  have respelled : List.Forall₂ (Token.Respells .spacing) (tokenize sql) (tokenize (layout.respaced gaps)) := by
    rw [← divides.tokens]
    exact Lexer.respaced_tokens layout gaps 1 1 .gap nofun respaces reads
  obtain ⟨query, queryErrors⟩ := Query.of_tokens_respelled _ _ _ respelled
  obtain ⟨definition, definitionErrors⟩ := TableDefinition.of_tokens_respelled _ _ _ respelled
  exact {
    tokens := by
      rw [← List.forall₂_eq_eq_eq, List.forall₂_map_left_iff, List.forall₂_map_right_iff]
      exact respelled.flip.imp fun _ _ respells => Prod.ext respells.kind respells.same
    query := query.trans (Query.respell_id _)
    queryError := errors_of_alike queryErrors
    definition := definition.trans (TableDefinition.respell_id _)
    definitionError := errors_of_alike definitionErrors }

theorem parse_respaced (sql : String) :
    (∃ layout : Layout, layout.Divides sql ∧ layout.respaced layout.gaps = sql) ∧
      ∀ (layout : Layout) (gaps : List String), layout.Divides sql → layout.Respaces gaps →
        SameMeaning sql (layout.respaced gaps) := by
  obtain ⟨layout, divides⟩ := exists_division sql
  exact ⟨⟨layout, divides, layout.respaced_gaps.trans divides.text⟩, fun layout gaps divides respaces =>
    layout.same_meaning gaps sql divides respaces⟩

def brokenLayout : Layout where
  pieces := [("", ⟨.keyword, "SELECT", 1⟩), (" ", ⟨.identifier, "u", 1⟩), ("", ⟨.dot, ".", 1⟩),
    ("", ⟨.identifier, "id", 1⟩), (" ", ⟨.singleLineComment, "-- key", 1⟩)]
  gap := "\n"
  tail := "'it"
  terminal := ⟨.error, "unterminated quoted string", 2⟩
  blank := by decide
  inside := by decide
  blankEnd := by decide
  ends := .inr ⟨rfl, by decide, first_holds '\'' _ rfl, .unterminatedString, rfl, rfl⟩

theorem broken_layout_divides : brokenLayout.Divides "SELECT u.id -- key\n'it" where
  tokens := by
    -- The keyword is found by its lemma, as searching the table for it would take long here.
    have keyword := tokens_from_keyword 1 .SELECT " u.id -- key\n'it".toList (first_holds ' ' _ (by decide))
    have others : tokensFrom 1 " u.id -- key\n'it".toList = brokenLayout.tokens.tail := by decide +kernel
    rw [others] at keyword
    exact keyword.symm
  text := by decide +kernel

theorem parse_respaced_broken :
    brokenLayout.Divides "SELECT u.id -- key\n'it" ∧ brokenLayout.Respaces ["", "\r\n", "", "", "\n", "\r "] ∧
      SameMeaning "SELECT u.id -- key\n'it" "SELECT\r\nu.id\n-- key\r 'it" := by
  have respaces : brokenLayout.Respaces ["", "\r\n", "", "", "\n", "\r "] := by decide
  have text : brokenLayout.respaced ["", "\r\n", "", "", "\n", "\r "] = "SELECT\r\nu.id\n-- key\r 'it" := by
    decide +kernel
  have same := (parse_respaced "SELECT u.id -- key\n'it").2 brokenLayout _ broken_layout_divides respaces
  rw [text] at same
  exact ⟨broken_layout_divides, respaces, same⟩

-- What another text means if it has the letters of the first as capitals: the same with its names in capitals,
-- and the same error but for what it quotes. Types and sizes are in capitals already.
structure MeansCapitals (sql other : String) : Prop where
  tokens : List.Forall₂ (fun token capital => capital.kind = token.kind ∧ capital.line = token.line ∧
    (token.kind ≠ .error → capital.text = upperCase token.text)) (tokenize sql) (tokenize other)
  query : (Query.parse other).value = (Query.parse sql).value.respell upperCase
  queryError : (Query.parse other).error?.map ParseError.inCapitals = (Query.parse sql).error?.map ParseError.inCapitals
  definition : (TableDefinition.parse other).value = (TableDefinition.parse sql).value.respell upperCase
  columnTypes : (TableDefinition.parse other).value.columns.map ColumnDefinition.columnType? =
    (TableDefinition.parse sql).value.columns.map ColumnDefinition.columnType?
  definitionError : (TableDefinition.parse other).error?.map ParseError.inCapitals =
    (TableDefinition.parse sql).error?.map ParseError.inCapitals

theorem parse_upper_case (sql : String) : MeansCapitals sql (upperCase sql) := by
  have respelled : List.Forall₂ (Token.Respells .inCapitals) (tokenize sql) (tokenize (upperCase sql)) := by
    rw [tokenize, tokenize, Lexer.ofString, Lexer.ofString, to_list_upper_case]
    exact Lexer.tokens_in_capitals (Lexer.ofString sql)
  obtain ⟨query, queryErrors⟩ := Query.of_tokens_respelled _ _ _ respelled
  obtain ⟨definition, definitionErrors⟩ := TableDefinition.of_tokens_respelled _ _ _ respelled
  exact {
    tokens := respelled.imp fun _ _ respells => ⟨respells.kind, respells.line, respells.text⟩
    query := query
    queryError := errors_of_alike queryErrors
    definition := definition
    columnTypes := by
      rw [show (TableDefinition.parse (upperCase sql)).value = _ from definition, TableDefinition.respell, List.map_map]
      rfl
    definitionError := errors_of_alike definitionErrors }

end SqlOutline
