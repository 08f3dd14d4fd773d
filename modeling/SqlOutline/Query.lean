set_option autoImplicit false

namespace SqlOutline

inductive StatementKind where
  | select
deriving DecidableEq

def StatementKind.name : StatementKind → String
  | .select => "Select"

-- An item of the SELECT list, as in `table.column AS alias`.
@[ext]
structure Column where
  table? : Option String := none
  column : String := ""
  alias? : Option String := none
deriving DecidableEq

namespace Column

def wildcard : String :=
  "*"

def isWildcard (item : Column) : Bool :=
  item.column == wildcard

def isValid (item : Column) : Bool :=
  !item.column.isEmpty

end Column

structure Table where
  name : String := ""
  alias? : Option String := none
deriving DecidableEq

def Table.isValid (item : Table) : Bool :=
  !item.name.isEmpty

structure Query where
  statement? : Option StatementKind := none
  comments : List String := []
  selects : List Column := []
  froms : List Table := []
deriving DecidableEq

namespace Query

def addComment (query : Query) (text : String) : Query :=
  { query with comments := query.comments ++ [text] }

def addSelect (query : Query) (item : Column) : Query :=
  { query with selects := query.selects ++ [item] }

def addFrom (query : Query) (item : Table) : Query :=
  { query with froms := query.froms ++ [item] }

end Query

end SqlOutline
