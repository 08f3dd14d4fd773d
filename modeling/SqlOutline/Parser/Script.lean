import SqlOutline.Parser
import SqlOutline.Query
import SqlOutline.TableDefinition

set_option autoImplicit false

namespace SqlOutline

open SqlOutline.Parser

inductive Item where
  | text (value : String)
  | column (value : Column)
  | table (value : Table)
  | definition (value : ColumnDefinition)
deriving DecidableEq

def Item.isValid : Item → Bool
  | .text _ => true
  | .column value => value.isValid
  | .table value => value.isValid
  | .definition value => value.isValid

inductive Action where
  | next
  | peek
  | skip
  | hasError
  | fail (error : ParseError)
  | commit (item : Item) (what : String)

inductive Reply where
  | token (token : Token)
  | skipped
  | flag (value : Bool)
  | committed
deriving DecidableEq

namespace Action

variable {V : Type}

def perform (add : Item → V → V) : Action → ParseM V Reply
  | .next => do return .token (← Parser.next)
  | .peek => do return .token (← Parser.peek)
  | .skip => do
      Parser.skip
      return .skipped
  | .hasError => do return .flag (← Parser.hasError)
  | .fail error => do
      let following : Option Unit ← Parser.fail error
      return .flag following.isNone
  | .commit item what => do
      Parser.commit what item.isValid (add item)
      return .committed

def performAll (add : Item → V → V) : List Action → Parser V → List (Except ParseError Reply) × Parser V
  | [], parser => ([], parser)
  | action :: rest, parser =>
      match action.perform add parser with
      | .ok reply after =>
          let result := performAll add rest after
          (.ok reply :: result.1, result.2)
      | .error error after =>
          let result := performAll add rest after
          (.error error :: result.1, result.2)

end Action

namespace Script

-- An action of a state. An error that it returns ends the state only if it is `decisive`.
structure Step where
  action : Action
  decisive : Bool

inductive Ending where
  | goOn
  | done
  | error (error : ParseError)

structure Stage where
  steps : List Step
  ending : Ending

inductive Entry where
  | started
  | result (result : Except ParseError Reply)
  | exhausted

structure Record where
  items : List Item
  log : List Entry

def note (entry : Entry) : ParseM Record Unit :=
  change fun record => { record with log := record.log ++ [entry] }

def addItem (item : Item) (record : Record) : Record :=
  { record with items := record.items ++ [item] }

def perform (action : Action) : ParseM Record (Except ParseError Reply) := do
  let result ← fun parser =>
    match action.perform addItem parser with
    | .ok reply after => .ok (.ok reply) after
    | .error error after => .ok (.error error) after
  note (.result result)
  return result

def runSteps : List Step → ParseM Record Unit
  | [] => return ()
  | step :: rest => do
      match ← perform step.action with
      | .ok _ => runSteps rest
      | .error error => if step.decisive then throw error else runSteps rest

def runStage : List Stage → ParseM Record (Option (List Stage))
  | [] => do
      note .exhausted
      return none
  | stage :: rest => do
      note .started
      runSteps stage.steps
      match stage.ending with
      | .goOn => return some rest
      | .done => return none
      | .error error => throw error

theorem run_stage_shorter (stages following : List Stage) (before after : Parser Record)
    (success : runStage stages before = .ok (some following) after) : following.length < stages.length := by
  cases stages with
  | nil => cases success
  | cons stage rest =>
      have shape : runStage (stage :: rest) before =
          EStateM.bind (runSteps stage.steps) (fun _ => match stage.ending with
            | .goOn => return some rest
            | .done => return none
            | .error error => throw error)
            { before with value := { before.value with log := before.value.log ++ [.started] } } := rfl
      rw [shape] at success
      unfold EStateM.bind at success
      split at success
      · split at success
        · cases success
          exact Nat.lt_succ_self _
        · cases success
        · cases success
      · cases success

def grammar : Grammar Record (List Stage) where
  step := runStage
  distance stages _ := stages.length
  step_distance := run_stage_shorter

def run (stages : List Stage) (tokens : List Token) : Parsed Record :=
  grammar.run stages (Parser.ofTokens ⟨[], []⟩ tokens)

def Record.started (record : Record) : Nat :=
  record.log.countP fun
    | .started => true
    | _ => false

end Script

end SqlOutline
