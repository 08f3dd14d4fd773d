import SqlOutline.Parser.Progress
import SqlOutline.Query
import SqlOutline.Token.Lexer

set_option autoImplicit false

namespace SqlOutline.Query

inductive State where
  | start
  | columns (item : Column)
  | tables (item : Table)
deriving DecidableEq

def joinKeywords : List Keyword :=
  [.JOIN, .INNER, .OUTER, .LEFT, .RIGHT, .FULL]

section Reading

open SqlOutline.Parses

variable {M : Type → Type} [Monad M] [MonadExceptOf ParseError M] [Parses Query M]

def readStart (token : Token) : M (Option State) := do
  match token.kind with
  | .singleLineComment | .multiLineComment =>
      commit "comment" true (·.addComment token.text)
      return some .start
  | .keyword =>
      if token.isKeyword .SELECT then
        change fun query => { query with statement? := some .select }
        return some (.columns {})
      else fail (.unsupported token)
  | _ => fail (.unexpected "statement" token)

-- A name in the SELECT list. Before a dot it is a table, before an identifier it is a column with
-- that alias, and otherwise it is added to the column name.
def readColumnName (item : Column) (name : Token) : M (Option State) := do
  match (← peek).kind with
  | .dot =>
      skip
      return some (.columns { item with table? := some name.text })
  | .identifier =>
      let label ← next
      return some (.columns { item with column := name.text, alias? := some label.text })
  | _ => return some (.columns { item with column := item.column ++ name.text })

def readAlias (item : Column) : M (Option State) := do
  let label ← next
  if label.kind = .identifier then return some (.columns { item with alias? := some label.text })
  else fail (.notFound "identifier after AS" label)

def readColumn (item : Column) (token : Token) : M (Option State) := do
  match token.kind with
  | .comma =>
      commit "select column" item.isValid (·.addSelect item)
      return some (.columns {})
  | .keyword =>
      if token.isKeyword .FROM then
        commit "select column" item.isValid (·.addSelect item)
        return some (.tables {})
      else if token.isKeyword .AS then readAlias item
      else fail (.unexpected "columns" token)
  | .identifier | .backtickedIdentifier => readColumnName item token
  | .operator =>
      if token.text = Column.wildcard then return some (.columns { item with column := Column.wildcard })
      else fail (.unexpected "columns" token)
  | _ => fail (.unexpected "columns" token)

-- A name in the FROM list: first the table, then its alias.
def readTableName (item : Table) (name : Token) : M (Option State) :=
  match item.alias? with
  | some label => fail (.ambiguousIdentifier item.name label name.text)
  | none =>
      if item.name.isEmpty then return some (.tables { item with name := name.text })
      else return some (.tables { item with alias? := some name.text })

def readTable (item : Table) (token : Token) : M (Option State) := do
  match token.kind with
  | .comma =>
      commit "table in FROM clause" item.isValid (·.addFrom item)
      return some (.tables {})
  | .keyword =>
      if token.isKeyword .WHERE || token.isOneOf joinKeywords then
        commit "table in FROM clause" item.isValid (·.addFrom item)
        return none
      else fail (.unexpected "from-clause" token)
  | .identifier | .backtickedIdentifier => readTableName item token
  | .endOfInput | .statementEnd =>
      commit "table in FROM clause" item.isValid (·.addFrom item)
      return none
  | _ => fail (.unexpected "from-clause" token)

def read : State → Token → M (Option State)
  | .start => readStart
  | .columns item => readColumn item
  | .tables item => readTable item

def step (state : State) : M (Option State) := do
  read state (← next)

end Reading

section Progress

variable {S : Type} [Parses Query (EStateM ParseError S)] {remaining : S → Nat} (progress : Progress remaining)

include progress

theorem forward_read_column_name (item : Column) (name : Token) :
    Forward remaining (readColumnName item name : EStateM ParseError S (Option State)) := by
  refine forward_bind progress.peek fun following => ?_
  split
  · exact forward_bind progress.skip fun _ => forward_pure _
  · exact forward_bind (forward_of_takes progress.next) fun _ => forward_pure _
  · exact forward_pure _

theorem forward_read_alias (item : Column) :
    Forward remaining (readAlias item : EStateM ParseError S (Option State)) := by
  refine forward_bind (forward_of_takes progress.next) fun label => ?_
  split
  · exact forward_pure _
  · exact progress.fail _

theorem forward_read_table_name (item : Table) (name : Token) :
    Forward remaining (readTableName item name : EStateM ParseError S (Option State)) := by
  unfold readTableName
  split
  · exact progress.fail _
  · split <;> exact forward_pure _

theorem forward_read (state : State) (token : Token) :
    Forward remaining (read state token : EStateM ParseError S (Option State)) := by
  cases state with
  | start =>
      simp only [read, readStart]
      split
      · exact forward_bind (progress.commit _ _ _) fun _ => forward_pure _
      · exact forward_bind (progress.commit _ _ _) fun _ => forward_pure _
      · split
        · exact forward_bind (progress.change _) fun _ => forward_pure _
        · exact progress.fail _
      · exact progress.fail _
  | columns item =>
      simp only [read, readColumn]
      split
      · exact forward_bind (progress.commit _ _ _) fun _ => forward_pure _
      · split
        · exact forward_bind (progress.commit _ _ _) fun _ => forward_pure _
        · split
          · exact forward_read_alias progress item
          · exact progress.fail _
      · exact forward_read_column_name progress item token
      · exact forward_read_column_name progress item token
      · split
        · exact forward_pure _
        · exact progress.fail _
      · exact progress.fail _
  | tables item =>
      simp only [read, readTable]
      split
      · exact forward_bind (progress.commit _ _ _) fun _ => forward_pure _
      · split
        · exact forward_bind (progress.commit _ _ _) fun _ => forward_pure _
        · exact progress.fail _
      · exact forward_read_table_name progress item token
      · exact forward_read_table_name progress item token
      · exact forward_bind (progress.commit _ _ _) fun _ => forward_pure _
      · exact forward_bind (progress.commit _ _ _) fun _ => forward_pure _
      · exact progress.fail _

end Progress

-- Every step takes a token, so the tokens that are left bound the steps to come.
def grammar : Grammar Query State where
  step := step
  distance _ parser := parser.remaining
  step_distance state following before after success :=
    takes_bind Parser.takes_next (forward_read Parser.progress state) before after (some following) success

def ofTokens (tokens : List Token) : Parsed Query :=
  grammar.run .start (Parser.ofTokens {} tokens)

def parse (sql : String) : Parsed Query :=
  ofTokens (tokenize sql)

end SqlOutline.Query
