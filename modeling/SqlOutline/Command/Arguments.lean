import SqlOutline.Command

set_option autoImplicit false

namespace SqlOutline

def Command.ofName? (name : String) : Option Command :=
  if name = "tokens" then some .tokens
  else if name = "query" then some .query
  else if name = "create-table" then some .createTable
  else none

structure Surroundings (m : Type → Type) where
  standardInput : m ByteArray
  file? : String → m (Option ByteArray)

structure Arguments where
  command? : Option Command := none
  json : Bool := false
  file? : Option String := none
  sql? : Option String := none

namespace Arguments

def positional? (arguments : Arguments) (word : String) : Option Arguments :=
  match arguments.command?, arguments.sql? with
  | none, _ => (Command.ofName? word).map fun command => { arguments with command? := some command }
  | some _, none => some { arguments with sql? := some word }
  | some _, some _ => none

def withFile? (arguments : Arguments) (path : String) : Option Arguments :=
  if arguments.file?.isNone then some { arguments with file? := some path } else none

-- Reads the arguments, or none if there is one that has no meaning. The options for a log are
-- accepted, as there is nothing to log.
def read? (arguments : Arguments) : List String → Option Arguments
  | [] => some arguments
  | "--" :: rest => rest.foldlM positional? arguments
  | "--json" :: rest => read? { arguments with json := true } rest
  | "-f" :: path :: rest => (withFile? arguments path).bind fun arguments => read? arguments rest
  | "--file" :: path :: rest => (withFile? arguments path).bind fun arguments => read? arguments rest
  | "--log-level" :: _ :: rest => read? arguments rest
  | "--log-format" :: _ :: rest => read? arguments rest
  | word :: rest =>
      if word.startsWith "-" then none
      else (positional? arguments word).bind fun arguments => read? arguments rest

section Reading

variable {m : Type → Type} [Monad m]

-- A file named `-` is the standard input.
def source (surroundings : Surroundings m) (path : String) : m Source := do
  if path = "-" then
    return .contents (← surroundings.standardInput)
  else
    match ← surroundings.file? path with
    | some bytes => return .contents bytes
    | none => return .missing

def request (arguments : Arguments) (command : Command) (surroundings : Surroundings m) : m Request := do
  let source? ← arguments.file?.mapM (source surroundings)
  return ⟨command, arguments.json, source?, arguments.sql?⟩

end Reading

end Arguments

end SqlOutline
