import SqlOutline.Json.Data
import SqlOutline.Outline
import SqlOutline.Query.Grammar
import SqlOutline.TableDefinition.Grammar

set_option autoImplicit false

namespace SqlOutline

inductive Command where
  | tokens
  | query
  | createTable
deriving DecidableEq

inductive Source where
  | contents (bytes : ByteArray)
  | missing

structure Request where
  command : Command
  json : Bool
  source? : Option Source
  argument? : Option String

inductive Failure where
  | noText
  | noFile
  | notUtf8
  | statement (error : ParseError)

def Failure.message : Failure → String
  | .noText => "missing SQL, provide it as an argument or with --file"
  | .noFile => "No such file or directory (os error 2)"
  | .notUtf8 => "stream did not contain valid UTF-8"
  | .statement error => error.message

structure Outcome where
  output : String
  failure? : Option Failure

namespace Outcome

def stdout (outcome : Outcome) : String :=
  match outcome.failure? with
  | none => outcome.output
  | some failure => outcome.output ++ "ERROR: " ++ failure.message ++ "\n"

def exitCode (outcome : Outcome) : Nat :=
  match outcome.failure? with
  | none => 0
  | some _ => 1

end Outcome

namespace Request

-- The text of a request. A source goes before an argument, even one that cannot be read.
def text (request : Request) : Except Failure String :=
  match request.source?, request.argument? with
  | some .missing, _ => .error .noFile
  | some (.contents bytes), _ =>
      match String.fromUTF8? bytes with
      | some text => .ok text
      | none => .error .notUtf8
  | none, some text => .ok text
  | none, none => .error .noText

end Request

def lexError? (tokens : List Token) : Option ParseError :=
  match tokens.getLast? with
  | none => none
  | some token => if token.kind = .error then some (.lex token.line token.text) else none

namespace Command

def render (json : Bool) (value : Json) (outline : Outline) : String :=
  (if json then value.pretty else outline.print 0) ++ "\n"

def display (command : Command) (json : Bool) (sql : String) : Outcome :=
  match command with
  | .tokens =>
      let tokens := tokenize sql
      ⟨render json (Json.ofList Token.toJson tokens) (.ofList Token.toOutline tokens),
        (lexError? tokens).map .statement⟩
  | .query =>
      let parsed := Query.parse sql
      ⟨render json parsed.value.toJson parsed.value.toOutline, parsed.error?.map .statement⟩
  | .createTable =>
      let parsed := TableDefinition.parse sql
      ⟨render json parsed.value.toJson parsed.value.toOutline, parsed.error?.map .statement⟩

end Command

def Request.outcome (request : Request) : Outcome :=
  match request.text with
  | .ok sql => request.command.display request.json sql
  | .error failure => ⟨"", some failure⟩

end SqlOutline
