import SqlOutline.Query
import SqlOutline.Proofs.Token.Words

set_option autoImplicit false

namespace SqlOutline

namespace Column

def qualifierText (item : Column) : String :=
  match item.table? with
  | none => ""
  | some table => table ++ "."

-- After `*` the word AS cannot be left out.
def aliasText (withAs : Bool) (item : Column) : String :=
  match item.alias? with
  | none => ""
  | some label => (if withAs || item.isWildcard then " AS " else " ") ++ label

def written (withAs : Bool) (item : Column) : String :=
  item.qualifierText ++ item.column ++ item.aliasText withAs

structure Printable (item : Column) : Prop where
  table : ∀ table ∈ item.table?, IsName table
  column : IsName item.column ∨ item.column = wildcard
  label : ∀ label ∈ item.alias?, BareWord label

instance (item : Column) : Decidable item.Printable :=
  decidable_of_iff
    ((∀ table ∈ item.table?, IsName table) ∧ (IsName item.column ∨ item.column = wildcard) ∧
      ∀ label ∈ item.alias?, BareWord label)
    ⟨fun ⟨table, column, label⟩ => ⟨table, column, label⟩, fun ⟨table, column, label⟩ => ⟨table, column, label⟩⟩

end Column

namespace Table

def written (item : Table) : String :=
  match item.alias? with
  | none => item.name
  | some label => item.name ++ " " ++ label

structure Printable (item : Table) : Prop where
  name : IsName item.name
  label : ∀ label ∈ item.alias?, IsName label

instance (item : Table) : Decidable item.Printable :=
  decidable_of_iff (IsName item.name ∧ ∀ label ∈ item.alias?, IsName label)
    ⟨fun ⟨name, label⟩ => ⟨name, label⟩, fun ⟨name, label⟩ => ⟨name, label⟩⟩

end Table

namespace Query

-- `withAs` says which items of the SELECT list are written with AS, by their positions from 0.
def statementText (withAs : Nat → Bool) (query : Query) : String :=
  "SELECT " ++ ", ".intercalate (query.selects.zipIdx.map fun entry => entry.1.written (withAs entry.2)) ++
    " FROM " ++ ", ".intercalate (query.froms.map Table.written)

def written (withAs : Nat → Bool) (ended : Bool) (query : Query) : String :=
  String.join (query.comments.map (· ++ "\n")) ++ query.statementText withAs ++ (if ended then ";" else "")

structure Printable (query : Query) : Prop where
  statement : query.statement? = some .select
  comments : ∀ text ∈ query.comments, CommentText text
  selecting : query.selects ≠ []
  columns : ∀ item ∈ query.selects, item.Printable
  reading : query.froms ≠ []
  tables : ∀ item ∈ query.froms, item.Printable

instance (query : Query) : Decidable query.Printable :=
  decidable_of_iff
    (query.statement? = some .select ∧ (∀ text ∈ query.comments, CommentText text) ∧ query.selects ≠ [] ∧
      (∀ item ∈ query.selects, item.Printable) ∧ query.froms ≠ [] ∧ ∀ item ∈ query.froms, item.Printable)
    ⟨fun ⟨statement, comments, selecting, columns, reading, tables⟩ =>
        ⟨statement, comments, selecting, columns, reading, tables⟩,
      fun ⟨statement, comments, selecting, columns, reading, tables⟩ =>
        ⟨statement, comments, selecting, columns, reading, tables⟩⟩

end Query

end SqlOutline
