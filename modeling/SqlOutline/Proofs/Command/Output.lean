import Mathlib.Logic.ExistsUnique
import SqlOutline.Command.Arguments
import SqlOutline.Proofs.Json.Lossless
import SqlOutline.Proofs.Outline
import SqlOutline.Proofs.Query.Faults
import SqlOutline.Proofs.TableDefinition.Faults

set_option autoImplicit false

namespace SqlOutline

-- The text is in the file that is named, or on the standard input, and only if none is named among the arguments.
inductive Arguments.Supplies (arguments : Arguments) (surroundings : Surroundings Id) (sql : String) : Prop where
  | standardInput (named : arguments.file? = some "-") (contents : surroundings.standardInput = sql.toUTF8)
  | file (path : String) (named : arguments.file? = some path) (isFile : path ≠ "-")
      (contents : surroundings.file? path = some sql.toUTF8)
  | argument (unnamed : arguments.file? = none) (given : arguments.sql? = some sql)

namespace Command

def shownJson (sql : String) : Command → Json
  | .tokens => Json.ofList Token.toJson (tokenize sql)
  | .query => (Query.parse sql).value.toJson
  | .createTable => (TableDefinition.parse sql).value.toJson

def shownOutline (sql : String) : Command → Outline
  | .tokens => .ofList Token.toOutline (tokenize sql)
  | .query => (Query.parse sql).value.toOutline
  | .createTable => (TableDefinition.parse sql).value.toOutline

def rendering (command : Command) (json : Bool) (sql : String) : String :=
  if json then (command.shownJson sql).pretty else (command.shownOutline sql).print 0

def SameValue (sql other : String) : Command → Prop
  | .tokens => tokenize sql = tokenize other
  | .query => (Query.parse sql).value = (Query.parse other).value
  | .createTable => (TableDefinition.parse sql).value = (TableDefinition.parse other).value

-- The error at the end of the tokens, or the error of the parse.
def Reports (sql : String) (error : ParseError) : Command → Prop
  | .tokens => ∃ line message, (tokenize sql).getLast? = some ⟨.error, message, line⟩ ∧ error = .lex line message
  | .query => (Query.parse sql).error? = some error
  | .createTable => (TableDefinition.parse sql).error? = some error

-- The value is printed in any case, then the error if there is one, and it is the error that decides the exit code.
inductive Shows (command : Command) (json : Bool) (sql : String) (outcome : Outcome) : Option ParseError → Prop where
  | value (ended : outcome.exitCode = 0) (printed : outcome.stdout = command.rendering json sql ++ "\n") :
      Shows command json sql outcome none
  | valueAndError (error : ParseError) (ended : outcome.exitCode = 1)
      (printed : outcome.stdout = command.rendering json sql ++ "\n" ++ "ERROR: " ++ error.message ++ "\n") :
      Shows command json sql outcome (some error)

def Yields (command : Command) (json : Bool) (sql : String) (outcome : Outcome) : Prop :=
  ∃ arguments surroundings, Arguments.Supplies arguments surroundings sql ∧ arguments.json = json ∧
    outcome = (Id.run (arguments.request command surroundings)).outcome

end Command

theorem from_utf8_to_utf8 (sql : String) : String.fromUTF8? sql.toUTF8 = some sql := by
  have valid : sql.toUTF8.IsValidUTF8 := sql.isValidUTF8
  rw [String.fromUTF8?, dif_pos valid]
  rfl

section Delivery

variable {arguments : Arguments} {surroundings : Surroundings Id} {sql : String}

theorem source_of_file (path : String) (bytes : ByteArray) (isFile : path ≠ "-")
    (contents : surroundings.file? path = some bytes) : Id.run (Arguments.source surroundings path) = .contents bytes := by
  rw [Arguments.source, if_neg isFile]
  change (match surroundings.file? path with
    | some bytes => Source.contents bytes
    | none => .missing) = .contents bytes
  rw [contents]

theorem request_of_named (command : Command) (path : String) (named : arguments.file? = some path) :
    Id.run (arguments.request command surroundings) =
      ⟨command, arguments.json, some (Id.run (Arguments.source surroundings path)), arguments.sql?⟩ := by
  rw [Arguments.request, named]
  rfl

theorem outcome_of_contents (command : Command) (json : Bool) (argument? : Option String) :
    Request.outcome ⟨command, json, some (.contents sql.toUTF8), argument?⟩ = command.display json sql := by
  simp only [Request.outcome, Request.text, from_utf8_to_utf8]

theorem Arguments.Supplies.outcome (supplies : arguments.Supplies surroundings sql) (command : Command) :
    (Id.run (arguments.request command surroundings)).outcome = command.display arguments.json sql := by
  cases supplies with
  | standardInput named contents =>
      have read : Id.run (Arguments.source surroundings "-") = .contents sql.toUTF8 := congrArg Source.contents contents
      rw [request_of_named command "-" named, read, outcome_of_contents]
  | file path named isFile contents =>
      rw [request_of_named command path named, source_of_file path _ isFile contents, outcome_of_contents]
  | argument unnamed given =>
      rw [Arguments.request, unnamed, given]
      rfl

theorem Command.Yields.outcome_eq {command : Command} {json : Bool} {outcome : Outcome}
    (yields : command.Yields json sql outcome) : outcome = command.display json sql := by
  obtain ⟨arguments, surroundings, supplies, rfl, rfl⟩ := yields
  exact supplies.outcome command

end Delivery

theorem lex_error_iff (tokens : List Token) (error : ParseError) :
    lexError? tokens = some error ↔
      ∃ line message, tokens.getLast? = some ⟨.error, message, line⟩ ∧ error = .lex line message := by
  rw [lexError?]
  constructor
  · intro found
    split at found
    · contradiction
    · rename_i token last
      obtain ⟨kind, text, line⟩ := token
      split at found
      · rename_i broken
        obtain rfl : kind = .error := broken
        exact ⟨line, text, last, (Option.some.inj found).symm⟩
      · contradiction
  · rintro ⟨line, message, last, rfl⟩
    rw [last]
    rfl

namespace Command

section Display

variable {command : Command} {json : Bool} {sql : String} {outcome : Outcome} {error : ParseError}

def error? (sql : String) : Command → Option ParseError
  | .tokens => lexError? (tokenize sql)
  | .query => (Query.parse sql).error?
  | .createTable => (TableDefinition.parse sql).error?

theorem reports_iff : command.Reports sql error ↔ command.error? sql = some error := by
  cases command with
  | tokens => exact (lex_error_iff (tokenize sql) error).symm
  | query | createTable => exact Iff.rfl

theorem display_shows (command : Command) (json : Bool) (sql : String) :
    command.Shows json sql (command.display json sql) (command.error? sql) := by
  have shown : command.display json sql = ⟨command.rendering json sql ++ "\n", (command.error? sql).map .statement⟩ := by
    cases command <;> rfl
  rw [shown]
  cases command.error? sql with
  | none => exact .value rfl rfl
  | some error => exact .valueAndError error rfl rfl

theorem Yields.shows (yields : command.Yields json sql outcome) : command.Shows json sql outcome (command.error? sql) := by
  rw [yields.outcome_eq]
  exact display_shows command json sql

theorem Yields.shows_reported (yields : command.Yields json sql outcome) (reports : command.Reports sql error) :
    command.Shows json sql outcome (some error) := by
  rw [← reports_iff.mp reports]
  exact yields.shows

theorem Reports.is_about (reports : command.Reports sql error) : error.IsAbout (tokenize sql) := by
  cases command with
  | tokens =>
      obtain ⟨line, message, last, rfl⟩ := reports
      exact last
  | query => exact Query.parse_error_about sql error reports
  | createTable => exact TableDefinition.parse_error_about sql error reports

-- No errors are joined by a command, so a lexical error is not one of several.
theorem Reports.eq_of_listed {line : Nat} {message : String} (reports : command.Reports sql error)
    (listed : ParseError.lex line message ∈ error.errors) : error = .lex line message := by
  have about := reports.is_about
  cases error with
  | multiple => contradiction
  | _ => exact (List.mem_singleton.mp listed).symm

theorem Reports.reported_of_tokens {line : Nat} {message : String} (reports : command.Reports sql (.lex line message)) :
    Command.tokens.Reports sql (.lex line message) :=
  ⟨line, message, reports.is_about, rfl⟩

end Display

theorem rendering_tells (command : Command) (json : Bool) (sql other : String)
    (same : command.rendering json sql = command.rendering json other) : command.SameValue sql other := by
  cases json with
  | true =>
      replace same : (command.shownJson sql).pretty = (command.shownJson other).pretty := same
      cases command with
      | tokens => exact tokens_of_pretty (tokenize sql) (tokenize other) same
      | query => exact (Query.parse sql).value.keeps.of_pretty (Query.parse other).value.keeps same
      | createTable =>
          exact (TableDefinition.parse sql).value.keeps.of_pretty (TableDefinition.parse other).value.keeps same
  | false =>
      replace same : (command.shownOutline sql).print 0 = (command.shownOutline other).print 0 := same
      cases command with
      | tokens =>
          exact (Outline.list_tells _ Token.outline_tells (tokenize sql) (tokenize other)).of_print 0 same
      | query => exact ((Query.parse sql).value.outline_tells (Query.parse other).value).of_print 0 same
      | createTable =>
          exact ((TableDefinition.parse sql).value.outline_tells (TableDefinition.parse other).value).of_print 0 same

-- There are always arguments and surroundings for a text: the text itself is one of the arguments.
theorem yields_display (command : Command) (json : Bool) (sql : String) :
    command.Yields json sql (command.display json sql) := by
  let surroundings : Surroundings Id := ⟨ByteArray.empty, fun _ => none⟩
  exact ⟨{ json := json, sql? := some sql }, surroundings, .argument rfl rfl, rfl, rfl⟩

end Command

theorem commands_agree (sql : String) :
    (∀ (command : Command) (json : Bool), ∃! outcome, command.Yields json sql outcome) ∧
      (∀ (command : Command) (json : Bool) (other : String),
        command.rendering json sql = command.rendering json other → command.SameValue sql other) ∧
      (∀ (command : Command) (json : Bool) (outcome : Outcome), command.Yields json sql outcome →
        ((∀ error, ¬command.Reports sql error) ∧ command.Shows json sql outcome none) ∨
          ∃ error, command.Reports sql error ∧ command.Shows json sql outcome (some error)) ∧
      (∀ (command : Command) (error : ParseError) (line : Nat) (message : String), command.Reports sql error →
        ParseError.lex line message ∈ error.errors →
        ∀ json first second, command.Yields json sql first → Command.tokens.Yields json sql second →
          command.Shows json sql first (some (.lex line message)) ∧
            Command.tokens.Shows json sql second (some (.lex line message))) ∧
      ∀ json outcome, Command.tokens.Yields json sql outcome → outcome.exitCode = 0 →
        ∀ (command : Command) (error : ParseError) (line : Nat) (message : String), command.Reports sql error →
          ParseError.lex line message ∉ error.errors := by
  refine ⟨fun command json => ?_, fun command json => command.rendering_tells json sql,
    fun command json outcome yields => ?_, ?_, ?_⟩
  · exact ⟨_, command.yields_display json sql, fun outcome yields => yields.outcome_eq⟩
  · cases found : command.error? sql with
    | none =>
        have silent (error : ParseError) : ¬command.Reports sql error := fun reports =>
          nomatch found.symm.trans (Command.reports_iff.mp reports)
        have value := yields.shows
        rw [found] at value
        exact .inl ⟨silent, value⟩
    | some error =>
        have reports : command.Reports sql error := Command.reports_iff.mpr found
        exact .inr ⟨error, reports, yields.shows_reported reports⟩
  · intro command error line message reports listed json first second yields onTokens
    obtain rfl := reports.eq_of_listed listed
    exact ⟨yields.shows_reported reports, onTokens.shows_reported reports.reported_of_tokens⟩
  · intro json outcome onTokens complete command error line message reports listed
    obtain rfl := reports.eq_of_listed listed
    cases onTokens.shows_reported reports.reported_of_tokens with
    | valueAndError _ ended => omega

-- The texts come from the standard input and from a file, with another text among the arguments. The comment is shown
-- although a string is never closed, and the error is the same for both commands.
theorem commands_agree_unclosed :
    (∃ first second, Command.query.Yields false "/* c */\n'b" first ∧ Command.tokens.Yields false "/* c */\n'b" second ∧
      first.exitCode = 1 ∧ second.exitCode = 1 ∧
      first.stdout = "Query \x7b\n    statement: None,\n    comments: [\n        \"/* c */\",\n    ],\n" ++
        "    selects: [],\n    froms: [],\n\x7d\nERROR: line 2: unterminated quoted string\n" ∧
      second.stdout = "[\n    Token \x7b\n        kind: MultiLineComment,\n        text: \"/* c */\",\n        line: 1,\n    \x7d,\n" ++
        "    Token \x7b\n        kind: Error,\n        text: \"unterminated quoted string\",\n        line: 2,\n    \x7d,\n" ++
        "]\nERROR: line 2: unterminated quoted string\n") ∧
    ∃ first second, Command.createTable.Yields true "CREATE TABLE t (a INT64)" first ∧
      Command.tokens.Yields true "CREATE TABLE t (a INT64)" second ∧ first.exitCode = 0 ∧ second.exitCode = 0 ∧
      first.stdout = "\x7b\n  \"name\": \"t\",\n  \"comments\": [],\n  \"columns\": [\n    \x7b\n      \"name\": \"a\",\n" ++
        "      \"base_type\": \"INT64\",\n      \"type_size\": null,\n      \"is_array\": false,\n      \"not_null\": false\n" ++
        "    \x7d\n  ]\n\x7d\n" ∧
      (∀ other, Command.createTable.rendering true "CREATE TABLE t (a INT64)" = Command.createTable.rendering true other →
        (TableDefinition.parse "CREATE TABLE t (a INT64)").value = (TableDefinition.parse other).value) ∧
      ∀ (command : Command) (error : ParseError) (line : Nat) (message : String),
        command.Reports "CREATE TABLE t (a INT64)" error → ParseError.lex line message ∉ error.errors := by
  have piped (command : Command) (json : Bool) (sql : String) : ∃ outcome, command.Yields json sql outcome :=
    ⟨_, { json := json, file? := some "-", sql? := some "SELECT 1" }, ⟨sql.toUTF8, fun _ => none⟩,
      .standardInput rfl rfl, rfl, rfl⟩
  have stored (command : Command) (json : Bool) (sql : String) : ∃ outcome, command.Yields json sql outcome :=
    ⟨_, { json := json, file? := some "statement.sql", sql? := some "SELECT 1" },
      ⟨ByteArray.empty, fun _ => some sql.toUTF8⟩, .file "statement.sql" rfl (by decide) rfl, rfl, rfl⟩
  constructor
  · obtain ⟨first, onQuery⟩ := piped .query false "/* c */\n'b"
    obtain ⟨second, onTokens⟩ := stored .tokens false "/* c */\n'b"
    obtain ⟨_, _, _, agreed, _⟩ := commands_agree "/* c */\n'b"
    have reports : (Query.parse "/* c */\n'b").error? = some (.lex 2 "unterminated quoted string") := by
      with_unfolding_all rfl
    obtain ⟨_ | ⟨_, ended, printed⟩, _ | ⟨_, otherEnded, otherPrinted⟩⟩ :=
      agreed .query _ 2 _ reports List.mem_cons_self false first second onQuery onTokens
    refine ⟨first, second, onQuery, onTokens, ended, otherEnded, printed.trans ?_, otherPrinted.trans ?_⟩
    · decide +kernel
    · decide +kernel
  · obtain ⟨first, onDefinition⟩ := piped .createTable true "CREATE TABLE t (a INT64)"
    obtain ⟨second, onTokens⟩ := stored .tokens true "CREATE TABLE t (a INT64)"
    obtain ⟨_, tells, printed, _, silent⟩ := commands_agree "CREATE TABLE t (a INT64)"
    have readable : (TableDefinition.parse "CREATE TABLE t (a INT64)").error? = none :=
      Option.isNone_iff_eq_none.mp (by decide +kernel)
    have ended : (tokenize "CREATE TABLE t (a INT64)").getLast?.map Token.kind = some .endOfInput := by decide +kernel
    obtain ⟨_, ⟨complete, shown⟩⟩ | ⟨error, reports, _⟩ := printed .createTable true first onDefinition
    · obtain ⟨_, ⟨finished, _⟩⟩ | ⟨error, ⟨line, message, last, _⟩, _⟩ := printed .tokens true second onTokens
      · exact ⟨first, second, onDefinition, onTokens, complete, finished, shown.trans (by decide +kernel),
          tells .createTable true, silent true second onTokens finished⟩
      · rw [last] at ended
        cases ended
    · exact nomatch readable.symm.trans reports

end SqlOutline
