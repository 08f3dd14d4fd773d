import SqlOutline.Proofs.Token.Numbers
import SqlOutline.Proofs.Token.Words
import SqlOutline.TableDefinition

set_option autoImplicit false

namespace SqlOutline

-- Reading puts types and sizes in capitals, so only such texts are given back as they were.
def InCapitals (text : String) : Prop :=
  ∀ c ∈ text.toList, c.isLower = false

instance (text : String) : Decidable (InCapitals text) :=
  decidable_of_iff (text.toList.all (fun c => !c.isLower) = true) (by simp [InCapitals])

namespace ColumnDefinition

def sizeText (item : ColumnDefinition) : String :=
  match item.typeSize? with
  | none => ""
  | some size => "(" ++ size ++ ")"

def typeText (item : ColumnDefinition) : String :=
  if item.isArray then "ARRAY<" ++ item.baseType ++ item.sizeText ++ ">" else item.baseType ++ item.sizeText

def written (withKey : Bool) (item : ColumnDefinition) : String :=
  item.name ++ " " ++ item.typeText ++ (if withKey then " PRIMARY KEY" else "") ++
    (if item.notNull then " NOT NULL" else "")

structure Printable (item : ColumnDefinition) : Prop where
  name : IsName item.name
  type : IsName item.baseType
  element : item.isArray = true → BareWord item.baseType
  capitals : InCapitals item.baseType
  size : ∀ size ∈ item.typeSize?, (BareWord size ∨ NumberText size) ∧ InCapitals size

instance (item : ColumnDefinition) : Decidable item.Printable :=
  decidable_of_iff
    (IsName item.name ∧ IsName item.baseType ∧ (item.isArray = true → BareWord item.baseType) ∧ InCapitals item.baseType ∧
      ∀ size ∈ item.typeSize?, (BareWord size ∨ NumberText size) ∧ InCapitals size)
    ⟨fun ⟨name, type, element, capitals, size⟩ => ⟨name, type, element, capitals, size⟩,
      fun ⟨name, type, element, capitals, size⟩ => ⟨name, type, element, capitals, size⟩⟩

end ColumnDefinition

namespace TableDefinition

def columnsText (withKey : Nat → Bool) (definition : TableDefinition) : String :=
  ", ".intercalate (definition.columns.zipIdx.map fun entry => entry.1.written (withKey entry.2))

def objectText (withKey : Nat → Bool) (definition : TableDefinition) : String :=
  "TABLE " ++ definition.name ++ " (" ++ definition.columnsText withKey ++ ")"

-- The first `before` comments are written before CREATE, which is followed by a newline or a space.
def written (before : Nat) (newline : Bool) (withKey : Nat → Bool) (definition : TableDefinition) : String :=
  String.join ((definition.comments.take before).map (· ++ "\n")) ++ "CREATE" ++ (if newline then "\n" else " ") ++
    String.join ((definition.comments.drop before).map (· ++ "\n")) ++ definition.objectText withKey

structure Printable (definition : TableDefinition) : Prop where
  name : IsName definition.name
  comments : ∀ text ∈ definition.comments, CommentText text
  listing : definition.columns ≠ []
  columns : ∀ item ∈ definition.columns, item.Printable

instance (definition : TableDefinition) : Decidable definition.Printable :=
  decidable_of_iff
    (IsName definition.name ∧ (∀ text ∈ definition.comments, CommentText text) ∧ definition.columns ≠ [] ∧
      ∀ item ∈ definition.columns, item.Printable)
    ⟨fun ⟨name, comments, listing, columns⟩ => ⟨name, comments, listing, columns⟩,
      fun ⟨name, comments, listing, columns⟩ => ⟨name, comments, listing, columns⟩⟩

end TableDefinition

end SqlOutline
