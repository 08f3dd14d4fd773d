import SqlOutline.Json.Text

set_option autoImplicit false

namespace SqlOutline.Json

variable {α : Type}

def ofRecord (fields : List (String × Json)) : Json :=
  .object (fields.map fun field => (escape field.1.toList, field.2))

def ofOption (value : α → Json) : Option α → Json
  | none => .null
  | some content => value content

def ofList (item : α → Json) (items : List α) : Json :=
  .array (items.map item)

def namedFields? (fields : List (List Char × Json)) : Option (List (String × Json)) :=
  fields.mapM fun field => (unescape? field.1).map fun name => (String.ofList name, field.2)

-- The value of a field that must not be given twice.
def field? (fields : List (String × Json)) (name : String) : Option (Option Json) :=
  match fields.filter fun field => field.1 == name with
  | [] => some none
  | [(_, value)] => some (some value)
  | _ => none

-- The values of the fields of a record, with none for a field that is missing. Fields with other
-- names are ignored.
def recordFields? (names : List String) : Json → Option (List (Option Json))
  | .object fields => do
      let fields ← namedFields? fields
      names.mapM (field? fields)
  | .array items => if items.length = names.length then some (items.map some) else none
  | _ => none

def required? (value? : Json → Option α) (field : Option Json) : Option α := do
  value? (← field)

def optional? (value? : Json → Option α) : Option Json → Option (Option α)
  | none | some .null => some none
  | some value => (value? value).map some

def list? (item? : Json → Option α) : Json → Option (List α)
  | .array items => items.mapM item?
  | _ => none

-- The name of a choice: a text, or an object that has the name as its only key and nothing to add.
def choice? : Json → Option String
  | .string literal => (unescape? literal).map String.ofList
  | .object [(key, .null)] => (unescape? key).map String.ofList
  | _ => none

end SqlOutline.Json
