import SqlOutline.Proofs.Query.Lookahead
import SqlOutline.Proofs.TableDefinition.Lookahead

set_option autoImplicit false

namespace SqlOutline

-- An error of the text exposes what was complete before it, and tokens that were not looked at do not matter.
theorem lex_error_shows_completed (front : List Token) (readable : Readable front) (error : Token)
    (isError : error.kind = .error) :
    ShowsCompleted Query.ofTokens Query.IsPartOf front error ∧
      ShowsCompleted TableDefinition.ofTokens TableDefinition.IsPartOf front error :=
  ⟨Query.grammar.shows_completed .start {} front error (Query.run_looks front readable) isError,
    TableDefinition.grammar.shows_completed .start {} front error (TableDefinition.run_looks front readable) isError⟩

-- A list of columns that breaks off in the middle of an array type.
def brokenDefinition : List Token :=
  [Keyword.CREATE.token 1, Keyword.TABLE.token 1, ⟨.identifier, "users", 1⟩, ⟨.leftParen, "(", 1⟩,
   ⟨.identifier, "id", 1⟩, ⟨.identifier, "INT64", 1⟩, ⟨.comma, ",", 1⟩, ⟨.identifier, "tags", 2⟩,
   Keyword.ARRAY.token 2, ⟨.operator, "<", 2⟩, ⟨.identifier, "STRING", 2⟩, ⟨.leftParen, "(", 2⟩]

theorem lex_error_shows_completed_array :
    Readable brokenDefinition ∧
      (TableDefinition.ofTokens (brokenDefinition ++ [⟨.error, "unterminated backtick", 2⟩])).value =
        ⟨"users", [], [⟨"id", "INT64", none, false, false⟩]⟩ ∧
      ShowsCompleted Query.ofTokens Query.IsPartOf brokenDefinition ⟨.error, "unterminated backtick", 2⟩ ∧
      ShowsCompleted TableDefinition.ofTokens TableDefinition.IsPartOf brokenDefinition
        ⟨.error, "unterminated backtick", 2⟩ :=
  have readable : Readable brokenDefinition := forall_mem_of_all _ (by decide)
  ⟨readable, by decide +kernel,
    lex_error_shows_completed brokenDefinition readable ⟨.error, "unterminated backtick", 2⟩ rfl⟩

-- An error of the grammar is reported at the first token after which nothing can be accepted.
theorem lex_error_shows_viable (front : List Token) (readable : Readable front) (error : Token)
    (isError : error.kind = .error) :
    ShowsViable Query.ofTokens front error ∧ ShowsViable TableDefinition.ofTokens front error :=
  ⟨Query.grammar.shows_viable .start {} front error Query.grammar_describes (Query.run_looks front readable) isError,
    TableDefinition.grammar.shows_viable .start {} front error TableDefinition.grammar_describes
      (TableDefinition.run_looks front readable) isError⟩

def brokenQuery : List Token :=
  [Keyword.SELECT.token 1, ⟨.identifier, "u", 1⟩, ⟨.dot, ".", 1⟩, ⟨.identifier, "id", 1⟩, ⟨.comma, ",", 1⟩,
   ⟨.operator, "*", 1⟩, Keyword.FROM.token 2, ⟨.backtickedIdentifier, "`users`", 2⟩]

theorem lex_error_shows_viable_table :
    Readable brokenQuery ∧ (Query.ofTokens (brokenQuery ++ [⟨.endOfInput, "", 2⟩])).error?.isNone = true ∧
      ShowsViable Query.ofTokens brokenQuery ⟨.error, "unterminated quoted string", 2⟩ ∧
      ShowsViable TableDefinition.ofTokens brokenQuery ⟨.error, "unterminated quoted string", 2⟩ :=
  have readable : Readable brokenQuery := forall_mem_of_all _ (by decide)
  ⟨readable, by decide +kernel, lex_error_shows_viable brokenQuery readable ⟨.error, "unterminated quoted string", 2⟩ rfl⟩

end SqlOutline
