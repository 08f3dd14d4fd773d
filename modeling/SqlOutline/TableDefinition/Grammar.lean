import SqlOutline.Parser.Progress
import SqlOutline.TableDefinition
import SqlOutline.Token.Lexer

set_option autoImplicit false

namespace SqlOutline.TableDefinition

inductive State where
  | start
  | object
  | name
  | columns (item : ColumnDefinition)
deriving DecidableEq

section Reading

open SqlOutline.Parses

variable {M : Type → Type} [Monad M] [MonadExceptOf ParseError M] [Parses TableDefinition M]

def readStart (token : Token) : M (Option State) := do
  match token.kind with
  | .singleLineComment | .multiLineComment =>
      commit "comment" true (·.addComment token.text)
      return some .start
  | .keyword =>
      if token.isKeyword .CREATE then return some .object
      else fail (.unsupported token)
  | _ => fail (.unexpected "create" token)

def readObject (token : Token) : M (Option State) := do
  match token.kind with
  | .singleLineComment | .multiLineComment =>
      commit "comment" true (·.addComment token.text)
      return some .object
  | .keyword =>
      if token.isKeyword .TABLE then return some .name
      else fail (.unsupported token)
  | _ => fail (.unexpected "create" token)

def readName (token : Token) : M (Option State) := do
  if token.kind.isName then
    change fun definition => { definition with name := token.text }
    let opening ← next
    if opening.kind = .leftParen then return some (.columns {})
    else fail (.notFound "'(' after table name" opening)
  else fail (.notFound "table name" token)

def wantedIn (item : ColumnDefinition) (what : String) : String :=
  what ++ " for column '" ++ item.name ++ "'"

def readSize (item : ColumnDefinition) : M String := do
  let size ← next
  if size.kind = .identifier ∨ size.kind = .number then
    let closing ← next
    if closing.kind = .rightParen then return upperCase size.text
    else throw (.notFound (wantedIn item "')' after type size") closing)
  else throw (.notFound (wantedIn item "type size") size)

def readOperator (item : ColumnDefinition) (operator : String) : M Unit := do
  let token ← next
  if token.kind = .operator ∧ token.text = operator then return ()
  else throw (.notFound (wantedIn item ("'" ++ operator ++ "' in array type")) token)

def readElementSize (item : ColumnDefinition) : M ColumnDefinition := do
  if (← peek).kind = .leftParen then
    skip
    let size ← readSize item
    return { item with typeSize? := some size }
  else return item

-- What follows ARRAY: the type of the elements between angle brackets.
def readArray (item : ColumnDefinition) : M (Option State) := do
  readOperator item "<"
  let element ← next
  if element.kind = .identifier then
    let item ← readElementSize { item with baseType := upperCase element.text, isArray := true }
    readOperator item ">"
    return some (.columns item)
  else throw (.notFound (wantedIn item "array element type") element)

-- A word that has to come next. What stands in its place is taken all the same, and reported.
def readWord (wanted : Token → Prop) [DecidablePred wanted] (what : String) (following : ColumnDefinition) :
    M (Option State) := do
  if wanted (← peek) then
    skip
    return some (.columns following)
  else fail (.notFound what (← next))

def readNull (item : ColumnDefinition) : M (Option State) :=
  readWord (fun token => token.isKeyword .NULL) (wantedIn item "NULL after NOT") { item with notNull := true }

-- What follows PRIMARY. The key is not kept.
def readKey (item : ColumnDefinition) : M (Option State) :=
  readWord (fun token => token.kind = .identifier ∧ equalIgnoringCase token.text "KEY") (wantedIn item "KEY after PRIMARY")
    item

-- The first name in a column is its own, each later one is its type.
def nameColumn (item : ColumnDefinition) (text : String) : ColumnDefinition :=
  if item.name.isEmpty then { item with name := text } else { item with baseType := upperCase text }

def readColumn (item : ColumnDefinition) (token : Token) : M (Option State) := do
  match token.kind with
  | .keyword =>
      match token.keyword? with
      | some .NOT => readNull item
      | some .PRIMARY => readKey item
      | some .ARRAY => readArray item
      | _ => fail (.unexpected "columns" token)
  | .identifier | .backtickedIdentifier => return some (.columns (nameColumn item token.text))
  | .leftParen =>
      let size ← readSize item
      return some (.columns { item with typeSize? := some size })
  | .comma =>
      commit "table column" item.isValid (·.addColumn item)
      return some (.columns {})
  | .rightParen =>
      commit "table column" item.isValid (·.addColumn item)
      return none
  | _ => fail (.unexpected "columns" token)

def read : State → Token → M (Option State)
  | .start => readStart
  | .object => readObject
  | .name => readName
  | .columns item => readColumn item

def step (state : State) : M (Option State) := do
  read state (← next)

end Reading

section Progress

variable {S : Type} [Parses TableDefinition (EStateM ParseError S)] {remaining : S → Nat} (progress : Progress remaining)

include progress

theorem forward_read_size (item : ColumnDefinition) :
    Forward remaining (readSize item : EStateM ParseError S String) := by
  refine forward_bind (forward_of_takes progress.next) fun size => ?_
  split
  · refine forward_bind (forward_of_takes progress.next) fun closing => ?_
    split
    · exact forward_pure _
    · exact forward_throw _
  · exact forward_throw _

theorem forward_read_operator (item : ColumnDefinition) (operator : String) :
    Forward remaining (readOperator item operator : EStateM ParseError S Unit) := by
  refine forward_bind (forward_of_takes progress.next) fun token => ?_
  split
  · exact forward_pure _
  · exact forward_throw _

theorem forward_read_element_size (item : ColumnDefinition) :
    Forward remaining (readElementSize item : EStateM ParseError S ColumnDefinition) := by
  refine forward_bind progress.peek fun token => ?_
  split
  · refine forward_bind progress.skip fun _ => ?_
    exact forward_bind (forward_read_size progress item) fun _ => forward_pure _
  · exact forward_pure _

theorem forward_read_array (item : ColumnDefinition) :
    Forward remaining (readArray item : EStateM ParseError S (Option State)) := by
  refine forward_bind (forward_read_operator progress item "<") fun _ => ?_
  refine forward_bind (forward_of_takes progress.next) fun element => ?_
  split
  · refine forward_bind (forward_read_element_size progress _) fun item => ?_
    exact forward_bind (forward_read_operator progress item ">") fun _ => forward_pure _
  · exact forward_throw _

theorem forward_read_word (wanted : Token → Prop) [DecidablePred wanted] (what : String) (following : ColumnDefinition) :
    Forward remaining (readWord wanted what following : EStateM ParseError S (Option State)) := by
  refine forward_bind progress.peek fun token => ?_
  split
  · exact forward_bind progress.skip fun _ => forward_pure _
  · exact forward_bind (forward_of_takes progress.next) fun _ => progress.fail _

theorem forward_read_name (token : Token) :
    Forward remaining (readName token : EStateM ParseError S (Option State)) := by
  unfold readName
  split
  · refine forward_bind (progress.change _) fun _ => ?_
    refine forward_bind (forward_of_takes progress.next) fun opening => ?_
    split
    · exact forward_pure _
    · exact progress.fail _
  · exact progress.fail _

theorem forward_read (state : State) (token : Token) :
    Forward remaining (read state token : EStateM ParseError S (Option State)) := by
  cases state with
  | start =>
      simp only [read, readStart]
      split
      · exact forward_bind (progress.commit _ _ _) fun _ => forward_pure _
      · exact forward_bind (progress.commit _ _ _) fun _ => forward_pure _
      · split
        · exact forward_pure _
        · exact progress.fail _
      · exact progress.fail _
  | object =>
      simp only [read, readObject]
      split
      · exact forward_bind (progress.commit _ _ _) fun _ => forward_pure _
      · exact forward_bind (progress.commit _ _ _) fun _ => forward_pure _
      · split
        · exact forward_pure _
        · exact progress.fail _
      · exact progress.fail _
  | name => exact forward_read_name progress token
  | columns item =>
      simp only [read, readColumn]
      split
      · split
        · exact forward_read_word progress _ _ _
        · exact forward_read_word progress _ _ _
        · exact forward_read_array progress item
        · exact progress.fail _
      · exact forward_pure _
      · exact forward_pure _
      · exact forward_bind (forward_read_size progress item) fun _ => forward_pure _
      · exact forward_bind (progress.commit _ _ _) fun _ => forward_pure _
      · exact forward_bind (progress.commit _ _ _) fun _ => forward_pure _
      · exact progress.fail _

end Progress

def grammar : Grammar TableDefinition State where
  step := step
  distance _ parser := parser.remaining
  step_distance state following before after success :=
    takes_bind Parser.takes_next (forward_read Parser.progress state) before after (some following) success

def ofTokens (tokens : List Token) : Parsed TableDefinition :=
  grammar.run .start (Parser.ofTokens {} tokens)

def parse (sql : String) : Parsed TableDefinition :=
  ofTokens (tokenize sql)

end SqlOutline.TableDefinition
