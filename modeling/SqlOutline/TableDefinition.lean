import SqlOutline.Keyword.Lookup

set_option autoImplicit false

namespace SqlOutline

inductive ColumnType where
  | bool
  | int64
  | float64
  | numeric
  | string
  | bytes
  | date
  | timestamp
  | json
deriving DecidableEq

namespace ColumnType

def all : List ColumnType :=
  [.bool, .int64, .float64, .numeric, .string, .bytes, .date, .timestamp, .json]

def text : ColumnType → String
  | .bool => "BOOL"
  | .int64 => "INT64"
  | .float64 => "FLOAT64"
  | .numeric => "NUMERIC"
  | .string => "STRING"
  | .bytes => "BYTES"
  | .date => "DATE"
  | .timestamp => "TIMESTAMP"
  | .json => "JSON"

def name : ColumnType → String
  | .bool => "Bool"
  | .int64 => "Int64"
  | .float64 => "Float64"
  | .numeric => "Numeric"
  | .string => "String"
  | .bytes => "Bytes"
  | .date => "Date"
  | .timestamp => "Timestamp"
  | .json => "Json"

def ofText? (word : String) : Option ColumnType :=
  all.find? fun type => equalIgnoringCase type.text word

def ofName? (name : String) : Option ColumnType :=
  all.find? fun type => type.name == name

end ColumnType

-- A column as in `name TYPE(SIZE) NOT NULL`, or `name ARRAY<TYPE(SIZE)>`.
@[ext]
structure ColumnDefinition where
  name : String := ""
  baseType : String := ""
  typeSize? : Option String := none
  isArray : Bool := false
  notNull : Bool := false
deriving DecidableEq

namespace ColumnDefinition

def isValid (item : ColumnDefinition) : Bool :=
  !item.name.isEmpty && !item.baseType.isEmpty

def columnType? (item : ColumnDefinition) : Option ColumnType :=
  ColumnType.ofText? item.baseType

end ColumnDefinition

structure TableDefinition where
  name : String := ""
  comments : List String := []
  columns : List ColumnDefinition := []
deriving DecidableEq

namespace TableDefinition

def addComment (definition : TableDefinition) (text : String) : TableDefinition :=
  { definition with comments := definition.comments ++ [text] }

def addColumn (definition : TableDefinition) (item : ColumnDefinition) : TableDefinition :=
  { definition with columns := definition.columns ++ [item] }

end TableDefinition

end SqlOutline
