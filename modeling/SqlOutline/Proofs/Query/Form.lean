import SqlOutline.Query.Grammar
import SqlOutline.Proofs.Sequence

set_option autoImplicit false

namespace SqlOutline.Query

inductive ColumnUnit where
  | asAlias (word name : Token) (isAs : word.isKeyword .AS = true) (isName : name.kind = .identifier)
  | qualifier (name dot : Token) (isName : name.kind.isName = true) (isDot : dot.kind = .dot)
  | aliased (name label : Token) (isName : name.kind.isName = true) (isLabel : label.kind = .identifier)
  | plain (name : Token) (isName : name.kind.isName = true)
  | wildcard (star : Token) (isStar : star.kind = .operator ∧ star.text = Column.wildcard)

namespace ColumnUnit

def tokens : ColumnUnit → List Token
  | .asAlias word name _ _ => [word, name]
  | .qualifier name dot _ _ => [name, dot]
  | .aliased name label _ _ => [name, label]
  | .plain name _ => [name]
  | .wildcard star _ => [star]

def isPlain : ColumnUnit → Bool
  | .plain _ _ => true
  | _ => false

def qualifier? : ColumnUnit → Option String
  | .qualifier name _ _ _ => some name.text
  | _ => none

def alias? : ColumnUnit → Option String
  | .asAlias _ name _ _ => some name.text
  | .aliased _ label _ _ => some label.text
  | _ => none

def columnText? : ColumnUnit → Option String
  | .aliased name _ _ _ => some name.text
  | .plain name _ => some name.text
  | .wildcard _ _ => some Column.wildcard
  | _ => none

-- The column is named anew, and what was said about it before does not count.
def restarts : ColumnUnit → Bool
  | .aliased _ _ _ _ => true
  | .wildcard _ _ => true
  | _ => false

-- A plain name ends before a dot and before an identifier: with either it would be another unit.
def EndsBefore (unit : ColumnUnit) (following : List Token) : Prop :=
  unit.isPlain = true → ∀ token ∈ following.head?, token.kind ≠ .dot ∧ token.kind ≠ .identifier

end ColumnUnit

def IsCut : List ColumnUnit → Prop
  | [] => True
  | unit :: rest => unit.EndsBefore (rest.flatMap ColumnUnit.tokens) ∧ IsCut rest

-- The units from the last one on that restarts the column, or all of them.
def currentUnits : List ColumnUnit → List ColumnUnit
  | [] => []
  | unit :: rest => if rest.any ColumnUnit.restarts then currentUnits rest else unit :: rest

structure ColumnForm where
  units : List ColumnUnit
  isCut : IsCut units
  isNamed : ∃ unit ∈ units, unit.columnText?.isSome = true

namespace ColumnForm

def tokens (form : ColumnForm) : List Token :=
  form.units.flatMap ColumnUnit.tokens

-- The last qualifier and the last alias count. The column is put together from the current units.
def column (form : ColumnForm) : Column where
  table? := (form.units.filterMap ColumnUnit.qualifier?).getLast?
  column := String.join ((currentUnits form.units).filterMap ColumnUnit.columnText?)
  alias? := (form.units.filterMap ColumnUnit.alias?).getLast?

end ColumnForm

structure TableForm where
  name : Token
  alias? : Option Token
  isName : name.kind.isName = true
  isAlias : ∀ token ∈ alias?, token.kind.isName = true

namespace TableForm

def tokens (form : TableForm) : List Token :=
  form.name :: form.alias?.toList

def table (form : TableForm) : Table where
  name := form.name.text
  alias? := form.alias?.map Token.text

end TableForm

-- The tokens after which the rest of the text does not matter.
def StopsQuery (token : Token) : Prop :=
  token.kind = .endOfInput ∨ token.kind = .statementEnd ∨
    token.isOneOf [.WHERE, .JOIN, .INNER, .OUTER, .LEFT, .RIGHT, .FULL] = true

structure SelectForm where
  comments : List Token
  select : Token
  columns : CommaList ColumnForm
  source : Token
  tables : CommaList TableForm
  stop : Token
  rest : List Token
  areComments : ∀ token ∈ comments, token.kind.isComment = true
  isSelect : select.isKeyword .SELECT = true
  isFrom : source.isKeyword .FROM = true
  isStop : StopsQuery stop

namespace SelectForm

def tokens (form : SelectForm) : List Token :=
  form.comments ++ [form.select] ++ form.columns.tokens ColumnForm.tokens ++ [form.source] ++
    form.tables.tokens TableForm.tokens ++ [form.stop] ++ form.rest

def query (form : SelectForm) : Query where
  statement? := some .select
  comments := form.comments.map Token.text
  selects := form.columns.entries.map ColumnForm.column
  froms := form.tables.entries.map TableForm.table

end SelectForm

end SqlOutline.Query
