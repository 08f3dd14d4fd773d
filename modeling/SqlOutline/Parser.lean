import SqlOutline.Cursor
import SqlOutline.ParseError

/-!
Parsing as a sequence of steps. A step reads tokens and adds to the value being built; it may record
errors, which ends the parse after the step, or return one, which ends the step at once. In both
cases the value keeps what was added before.
-/

set_option autoImplicit false

namespace SqlOutline

-- The value read from a text. With an error it holds what was complete before the error.
structure Parsed (V : Type) where
  value : V
  error? : Option ParseError

namespace Parsed

variable {V : Type}

def isOk (parsed : Parsed V) : Bool :=
  parsed.error?.isNone

def result (parsed : Parsed V) : Except ParseError V :=
  match parsed.error? with
  | some error => .error error
  | none => .ok parsed.value

end Parsed

structure Parser (V : Type) where
  value : V
  tokens : Cursor Token
  error? : Option ParseError

-- An action on a parser. One that returns an error still changes the parser.
abbrev ParseM (V : Type) := EStateM ParseError (Parser V)

namespace Parser

variable {V α : Type}

def ofTokens (value : V) (tokens : List Token) : Parser V :=
  ⟨value, Cursor.ofList tokens, none⟩

def finish (parser : Parser V) : Parsed V :=
  ⟨parser.value, parser.error?⟩

def record (parser : Parser V) (error : ParseError) : Parser V :=
  match parser.error? with
  | some earlier => { parser with error? := some (earlier.join error) }
  | none => { parser with error? := some error }

def remaining (parser : Parser V) : Nat :=
  parser.tokens.rest.length

theorem record_tokens (parser : Parser V) (error : ParseError) : (parser.record error).tokens = parser.tokens := by
  simp only [record]
  split <;> rfl

def checked (token : Token) : Except ParseError Token :=
  if token.kind = .error then .error (.lex token.line token.text) else .ok token

-- Takes the next token. An error token is taken too.
def next : ParseM V Token := fun parser =>
  match parser.tokens.next? with
  | none => .error .noToken parser
  | some (token, tokens) =>
      match checked token with
      | .ok token => .ok token { parser with tokens := tokens }
      | .error error => .error error { parser with tokens := tokens }

def peek : ParseM V Token := fun parser =>
  match parser.tokens.peek? with
  | none => .error .noToken parser
  | some token =>
      match checked token with
      | .ok token => .ok token parser
      | .error error => .error error parser

def skip : ParseM V Unit := do
  let _ ← next

def hasError : ParseM V Bool := do
  return (← get).error?.isSome

-- Records an error. There is no state to go on with.
def fail (error : ParseError) : ParseM V (Option α) := do
  modify fun parser => parser.record error
  return none

def change (update : V → V) : ParseM V Unit :=
  modify fun parser => { parser with value := update parser.value }

def commit (what : String) (valid : Bool) (add : V → V) : ParseM V Unit :=
  if valid then change add else throw (.invalidValue what)

end Parser

-- What a grammar can ask of a parser. Whoever answers, the grammar is the same.
class Parses (V : outParam Type) (M : Type → Type) where
  next : M Token
  peek : M Token
  skip : M Unit
  fail {α : Type} (error : ParseError) : M (Option α)
  change (update : V → V) : M Unit
  commit (what : String) (valid : Bool) (add : V → V) : M Unit

namespace Parser

variable {V α : Type}

instance : Parses V (ParseM V) where
  next := next
  peek := peek
  skip := skip
  fail := fail
  change := change
  commit := commit

theorem next_of_nil (parser : Parser V) (empty : parser.tokens.rest = []) : next parser = .error .noToken parser := by
  simp [next, Cursor.next?, empty]

theorem next_of_cons (parser : Parser V) (token : Token) (rest : List Token)
    (pending : parser.tokens.rest = token :: rest) (readable : token.kind ≠ .error) :
    next parser = .ok token { parser with tokens := ⟨rest, parser.tokens.consumed + 1⟩ } := by
  simp [next, Cursor.next?, checked, pending, readable]

theorem peek_of_nil (parser : Parser V) (empty : parser.tokens.rest = []) : peek parser = .error .noToken parser := by
  simp [peek, Cursor.peek?, empty]

theorem peek_of_cons (parser : Parser V) (token : Token) (rest : List Token)
    (pending : parser.tokens.rest = token :: rest) (readable : token.kind ≠ .error) :
    peek parser = .ok token parser := by
  simp [peek, Cursor.peek?, checked, pending, readable]

end Parser

-- The states of a parse. A step that names a following state gets nearer to the end.
structure Grammar (V State : Type) where
  step : State → ParseM V (Option State)
  distance : State → Parser V → Nat
  step_distance : ∀ (state following : State) (before after : Parser V),
    step state before = .ok (some following) after → distance following after < distance state before

namespace Grammar

variable {V State : Type}

-- Runs steps until one names no following state, returns an error or has recorded one.
def run (grammar : Grammar V State) (state : State) (parser : Parser V) : Parsed V :=
  match _step : grammar.step state parser with
  | .error error after => (after.record error).finish
  | .ok none after => after.finish
  | .ok (some following) after => if after.error?.isSome then after.finish else run grammar following after
termination_by grammar.distance state parser
decreasing_by exact grammar.step_distance state following parser after _step

variable (grammar : Grammar V State) (state following : State) (parser after : Parser V)

theorem run_of_error (error : ParseError) (step : grammar.step state parser = .error error after) :
    grammar.run state parser = (after.record error).finish := by
  rw [run]
  split <;> simp_all

theorem run_of_none (step : grammar.step state parser = .ok none after) :
    grammar.run state parser = after.finish := by
  rw [run]
  split <;> simp_all

theorem run_of_some (step : grammar.step state parser = .ok (some following) after) :
    grammar.run state parser = if after.error?.isSome then after.finish else grammar.run following after := by
  rw [run]
  split <;> simp_all

end Grammar

end SqlOutline
