import SqlOutline.Proofs.Sequence
import SqlOutline.TableDefinition.Grammar

set_option autoImplicit false

namespace SqlOutline.TableDefinition

structure SizeForm where
  opening : Token
  size : Token
  closing : Token
  isOpening : opening.kind = .leftParen
  isSize : size.kind = .identifier ∨ size.kind = .number
  isClosing : closing.kind = .rightParen

namespace SizeForm

def tokens (form : SizeForm) : List Token :=
  [form.opening, form.size, form.closing]

def text (form : SizeForm) : String :=
  upperCase form.size.text

def optionalTokens (size? : Option SizeForm) : List Token :=
  (size?.map tokens).getD []

end SizeForm

-- A piece of a column, in any order and as often as one likes.
inductive ColumnClause where
  | named (name : Token) (isName : name.kind.isName = true)
  | size (form : SizeForm)
  | notNull (word null : Token) (isNot : word.isKeyword .NOT = true) (isNull : null.isKeyword .NULL = true)
  | primaryKey (word key : Token) (isPrimary : word.isKeyword .PRIMARY = true)
      (isKey : key.kind = .identifier ∧ equalIgnoringCase key.text "KEY" = true)
  | array (word less element : Token) (size? : Option SizeForm) (greater : Token)
      (isArray : word.isKeyword .ARRAY = true) (isLess : less.kind = .operator ∧ less.text = "<")
      (isElement : element.kind = .identifier) (isGreater : greater.kind = .operator ∧ greater.text = ">")

namespace ColumnClause

def tokens : ColumnClause → List Token
  | .named name _ => [name]
  | .size form => form.tokens
  | .notNull word null _ _ => [word, null]
  | .primaryKey word key _ _ => [word, key]
  | .array word less element size? greater _ _ _ _ =>
      word :: less :: element :: (SizeForm.optionalTokens size? ++ [greater])

def name? : ColumnClause → Option String
  | .named name _ => some name.text
  | _ => none

def isName (clause : ColumnClause) : Bool :=
  clause.name?.isSome

def type? : ColumnClause → Option String
  | .named name _ => some (upperCase name.text)
  | .array _ _ element _ _ _ _ _ _ => some (upperCase element.text)
  | _ => none

def size? : ColumnClause → Option String
  | .size form => some form.text
  | .array _ _ _ size? _ _ _ _ _ => size?.map SizeForm.text
  | _ => none

def isArray : ColumnClause → Bool
  | .array .. => true
  | _ => false

def isNotNull : ColumnClause → Bool
  | .notNull .. => true
  | _ => false

end ColumnClause

-- The types that the clauses give. The first name is the name of the column, all others are types.
def types (clauses : List ColumnClause) : List String :=
  (clauses.eraseP ColumnClause.isName).filterMap ColumnClause.type?

structure ColumnForm where
  clauses : List ColumnClause
  isNamed : ∃ clause ∈ clauses, clause.isName = true
  isTyped : types clauses ≠ []

namespace ColumnForm

def tokens (form : ColumnForm) : List Token :=
  form.clauses.flatMap ColumnClause.tokens

-- The first name counts, and the last type and the last size.
def column (form : ColumnForm) : ColumnDefinition where
  name := ((form.clauses.filterMap ColumnClause.name?).head?).getD ""
  baseType := (types form.clauses).getLast form.isTyped
  typeSize? := (form.clauses.filterMap ColumnClause.size?).getLast?
  isArray := form.clauses.any ColumnClause.isArray
  notNull := form.clauses.any ColumnClause.isNotNull

end ColumnForm

structure DefinitionForm where
  before : List Token
  create : Token
  between : List Token
  table : Token
  name : Token
  opening : Token
  columns : CommaList ColumnForm
  closing : Token
  rest : List Token
  areComments : ∀ token ∈ before ++ between, token.kind.isComment = true
  isCreate : create.isKeyword .CREATE = true
  isTable : table.isKeyword .TABLE = true
  isName : name.kind.isName = true
  isOpening : opening.kind = .leftParen
  isClosing : closing.kind = .rightParen

namespace DefinitionForm

def tokens (form : DefinitionForm) : List Token :=
  form.before ++ [form.create] ++ form.between ++ [form.table] ++ [form.name, form.opening] ++
    form.columns.tokens ColumnForm.tokens ++ [form.closing] ++ form.rest

def definition (form : DefinitionForm) : TableDefinition where
  name := form.name.text
  comments := (form.before ++ form.between).map Token.text
  columns := form.columns.entries.map ColumnForm.column

end DefinitionForm

end SqlOutline.TableDefinition
