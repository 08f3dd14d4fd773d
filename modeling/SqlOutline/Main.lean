import SqlOutline.Command.Arguments

set_option autoImplicit false

namespace SqlOutline

def usage : String :=
  "usage: sql-outline [--json] [-f FILE] (tokens | query | create-table) [SQL]"

def readStandardInput : IO ByteArray := do
  let input ← IO.getStdin
  let mut bytes := ByteArray.empty
  let mut chunk ← input.read 65536
  while chunk.size > 0 do
    bytes := bytes ++ chunk
    chunk ← input.read 65536
  return bytes

def readFile? (path : String) : IO (Option ByteArray) := do
  try
    return some (← IO.FS.readBinFile path)
  catch _ => return none

def refuse : IO UInt32 := do
  IO.eprintln usage
  return 2

def runProgram (words : List String) : IO UInt32 := do
  let some arguments := Arguments.read? {} words | refuse
  let some command := arguments.command? | refuse
  let request ← arguments.request command ⟨readStandardInput, readFile?⟩
  IO.print request.outcome.stdout
  return request.outcome.exitCode.toUInt32

end SqlOutline

def main (words : List String) : IO UInt32 :=
  SqlOutline.runProgram words
