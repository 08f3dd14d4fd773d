import SqlOutline.Query
import SqlOutline.TableDefinition
import SqlOutline.Token

set_option autoImplicit false

namespace SqlOutline

inductive Outline where
  | word (text : String)
  | list (items : List Outline)
  | record (name : String) (fields : List (String × Outline))
  | tagged (name : String) (content : Outline)

namespace Outline

def lineStart (depth : Nat) : String :=
  String.ofList ('\n' :: List.replicate (4 * depth) ' ')

def enclose (opening closing : String) (depth : Nat) (parts : List String) : String :=
  if parts.isEmpty then opening ++ closing
  else opening ++ String.join (parts.map fun part => lineStart (depth + 1) ++ part ++ ",") ++ lineStart depth ++ closing

mutual
def print (depth : Nat) : Outline → String
  | .word text => text
  | .list items => enclose "[" "]" depth (printItems (depth + 1) items)
  | .record name fields => enclose (name ++ " \x7b") "\x7d" depth (printFields (depth + 1) fields)
  | .tagged name content => enclose (name ++ "(") ")" depth [content.print (depth + 1)]
def printItems (depth : Nat) : List Outline → List String
  | [] => []
  | item :: rest => item.print depth :: printItems depth rest
def printFields (depth : Nat) : List (String × Outline) → List String
  | [] => []
  | (name, content) :: rest => (name ++ ": " ++ content.print depth) :: printFields depth rest
end

variable {α : Type}

def ofText (text : String) : Outline :=
  .word (quotedText text)

def ofBool (value : Bool) : Outline :=
  .word (if value then "true" else "false")

def ofOption (content : α → Outline) : Option α → Outline
  | none => .word "None"
  | some value => .tagged "Some" (content value)

def ofList (item : α → Outline) (items : List α) : Outline :=
  .list (items.map item)

end Outline

def Token.toOutline (token : Token) : Outline :=
  .record "Token" [
    ("kind", .word token.kind.name),
    ("text", .ofText token.text),
    ("line", .word (toString token.line))]

def StatementKind.toOutline (kind : StatementKind) : Outline :=
  .word kind.name

def Column.toOutline (item : Column) : Outline :=
  .record "Column" [
    ("table", .ofOption .ofText item.table?),
    ("column", .ofText item.column),
    ("alias", .ofOption .ofText item.alias?)]

def Table.toOutline (item : Table) : Outline :=
  .record "Table" [("name", .ofText item.name), ("alias", .ofOption .ofText item.alias?)]

def Query.toOutline (query : Query) : Outline :=
  .record "Query" [
    ("statement", .ofOption StatementKind.toOutline query.statement?),
    ("comments", .ofList .ofText query.comments),
    ("selects", .ofList Column.toOutline query.selects),
    ("froms", .ofList Table.toOutline query.froms)]

def ColumnDefinition.toOutline (item : ColumnDefinition) : Outline :=
  .record "TableColumn" [
    ("name", .ofText item.name),
    ("base_type", .ofText item.baseType),
    ("type_size", .ofOption .ofText item.typeSize?),
    ("is_array", .ofBool item.isArray),
    ("not_null", .ofBool item.notNull)]

def TableDefinition.toOutline (definition : TableDefinition) : Outline :=
  .record "CreateTable" [
    ("name", .ofText definition.name),
    ("comments", .ofList .ofText definition.comments),
    ("columns", .ofList ColumnDefinition.toOutline definition.columns)]

end SqlOutline
