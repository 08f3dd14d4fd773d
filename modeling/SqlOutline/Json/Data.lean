import SqlOutline.Json.Record
import SqlOutline.Query
import SqlOutline.TableDefinition
import SqlOutline.Token

set_option autoImplicit false

namespace SqlOutline

def TokenKind.toJson (kind : TokenKind) : Json :=
  Json.ofText kind.name

def TokenKind.ofJson? (value : Json) : Option TokenKind := do
  TokenKind.ofName? (← value.choice?)

namespace Token

def toJson (token : Token) : Json :=
  Json.ofRecord [("kind", token.kind.toJson), ("text", Json.ofText token.text), ("line", Json.ofNat token.line)]

def ofJson? (value : Json) : Option Token := do
  match ← value.recordFields? ["kind", "text", "line"] with
  | [kind, text, line] =>
      return {
        kind := ← Json.required? TokenKind.ofJson? kind
        text := ← Json.required? Json.text? text
        line := ← Json.required? Json.nat? line
      }
  | _ => none

end Token

def StatementKind.toJson (kind : StatementKind) : Json :=
  Json.ofText kind.name

def StatementKind.ofJson? (value : Json) : Option StatementKind := do
  if (← value.choice?) = StatementKind.select.name then some .select else none

namespace Column

def toJson (item : Column) : Json :=
  Json.ofRecord [
    ("table", Json.ofOption Json.ofText item.table?),
    ("column", Json.ofText item.column),
    ("alias", Json.ofOption Json.ofText item.alias?)]

def ofJson? (value : Json) : Option Column := do
  match ← value.recordFields? ["table", "column", "alias"] with
  | [table, column, label] =>
      return {
        table? := ← Json.optional? Json.text? table
        column := ← Json.required? Json.text? column
        alias? := ← Json.optional? Json.text? label
      }
  | _ => none

end Column

namespace Table

def toJson (item : Table) : Json :=
  Json.ofRecord [("name", Json.ofText item.name), ("alias", Json.ofOption Json.ofText item.alias?)]

def ofJson? (value : Json) : Option Table := do
  match ← value.recordFields? ["name", "alias"] with
  | [name, label] =>
      return {
        name := ← Json.required? Json.text? name
        alias? := ← Json.optional? Json.text? label
      }
  | _ => none

end Table

namespace Query

def toJson (query : Query) : Json :=
  Json.ofRecord [
    ("statement", Json.ofOption StatementKind.toJson query.statement?),
    ("comments", Json.ofList Json.ofText query.comments),
    ("selects", Json.ofList Column.toJson query.selects),
    ("froms", Json.ofList Table.toJson query.froms)]

def ofJson? (value : Json) : Option Query := do
  match ← value.recordFields? ["statement", "comments", "selects", "froms"] with
  | [statement, comments, selects, froms] =>
      return {
        statement? := ← Json.optional? StatementKind.ofJson? statement
        comments := ← Json.required? (Json.list? Json.text?) comments
        selects := ← Json.required? (Json.list? Column.ofJson?) selects
        froms := ← Json.required? (Json.list? Table.ofJson?) froms
      }
  | _ => none

end Query

def ColumnType.toJson (type : ColumnType) : Json :=
  Json.ofText type.name

def ColumnType.ofJson? (value : Json) : Option ColumnType := do
  ColumnType.ofName? (← value.choice?)

namespace ColumnDefinition

def toJson (item : ColumnDefinition) : Json :=
  Json.ofRecord [
    ("name", Json.ofText item.name),
    ("base_type", Json.ofText item.baseType),
    ("type_size", Json.ofOption Json.ofText item.typeSize?),
    ("is_array", Json.bool item.isArray),
    ("not_null", Json.bool item.notNull)]

def ofJson? (value : Json) : Option ColumnDefinition := do
  match ← value.recordFields? ["name", "base_type", "type_size", "is_array", "not_null"] with
  | [name, baseType, typeSize, isArray, notNull] =>
      return {
        name := ← Json.required? Json.text? name
        baseType := ← Json.required? Json.text? baseType
        typeSize? := ← Json.optional? Json.text? typeSize
        isArray := ← Json.required? Json.bool? isArray
        notNull := ← Json.required? Json.bool? notNull
      }
  | _ => none

end ColumnDefinition

namespace TableDefinition

def toJson (definition : TableDefinition) : Json :=
  Json.ofRecord [
    ("name", Json.ofText definition.name),
    ("comments", Json.ofList Json.ofText definition.comments),
    ("columns", Json.ofList ColumnDefinition.toJson definition.columns)]

def ofJson? (value : Json) : Option TableDefinition := do
  match ← value.recordFields? ["name", "comments", "columns"] with
  | [name, comments, columns] =>
      return {
        name := ← Json.required? Json.text? name
        comments := ← Json.required? (Json.list? Json.text?) comments
        columns := ← Json.required? (Json.list? ColumnDefinition.ofJson?) columns
      }
  | _ => none

end TableDefinition

end SqlOutline
