set_option autoImplicit false

namespace SqlOutline

inductive Json where
  | null
  | bool (value : Bool)
  | number (literal : List Char)
  | string (literal : List Char)
  | array (items : List Json)
  | object (fields : List (List Char × Json))

namespace Json

def lineStart (depth : Nat) : List Char :=
  '\n' :: List.replicate (2 * depth) ' '

-- The parts of a container between its brackets. A container without parts takes no lines.
def enclose (opening closing : Char) (depth : Nat) (parts : List (List Char)) : List Char :=
  if parts.isEmpty then [opening, closing]
  else
    opening :: [','].intercalate (parts.map fun part => lineStart (depth + 1) ++ part) ++
      lineStart depth ++ [closing]

def quoted (literal : List Char) : List Char :=
  '"' :: literal ++ ['"']

mutual
def print (depth : Nat) : Json → List Char
  | .null => "null".toList
  | .bool true => "true".toList
  | .bool false => "false".toList
  | .number literal => literal
  | .string literal => quoted literal
  | .array items => enclose '[' ']' depth (printItems (depth + 1) items)
  | .object fields => enclose '\x7b' '\x7d' depth (printFields (depth + 1) fields)
def printItems (depth : Nat) : List Json → List (List Char)
  | [] => []
  | item :: rest => item.print depth :: printItems depth rest
def printFields (depth : Nat) : List (List Char × Json) → List (List Char)
  | [] => []
  | (key, value) :: rest => (quoted key ++ ':' :: ' ' :: value.print depth) :: printFields depth rest
end

def pretty (value : Json) : String :=
  String.ofList (value.print 0)

end Json

end SqlOutline
