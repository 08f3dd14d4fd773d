import SqlOutline.Token.Reading

set_option autoImplicit false

namespace SqlOutline

-- What is still to be read, and the line it starts on. After an error `rest` starts at the lexeme
-- that could not be read.
structure Lexer where
  rest : List Char
  line : Nat
  place : Place
deriving DecidableEq

def newlines (text : List Char) : Nat :=
  text.count '\n'

namespace Lexer

def ofString (sql : String) : Lexer :=
  ⟨sql.toList, 1, .gap⟩

def emit (line : Nat) (lexeme : Lexeme) : Token × Lexer :=
  let line := line + newlines lexeme.text
  (⟨lexeme.kind, String.ofList lexeme.text, line⟩, ⟨lexeme.rest, line, lexeme.next⟩)

-- The error token at `input`. Only an unterminated comment is noticed at the end of the text, all
-- other errors on the line where the lexeme starts.
def halt (line : Nat) (input : List Char) (cause : LexError) : Token × Lexer :=
  let line := if cause = .unterminatedComment then line + newlines input else line
  (⟨.error, cause.message, line⟩, ⟨input, line, .finished⟩)

def afterBlanks (line : Nat) (input : List Char) : Token × Lexer :=
  let start := line + newlines (input.takeWhile isBlank)
  let pending := input.dropWhile isBlank
  match Lexeme.read pending with
  | .ok lexeme => emit start lexeme
  | .error cause => halt start pending cause

def next? (lexer : Lexer) : Option (Token × Lexer) :=
  match lexer.place with
  | .finished => none
  | .gap => some (afterBlanks lexer.line lexer.rest)
  | .chain =>
      match Lexeme.readDotted? lexer.rest with
      | some lexeme => some (emit lexer.line lexeme)
      | none => some (afterBlanks lexer.line lexer.rest)

def remaining (lexer : Lexer) : Nat :=
  if lexer.place = .finished then 0 else lexer.rest.length + 1

theorem emit_remaining (line : Nat) (lexeme : Lexeme) (bound : Nat)
    (progress : lexeme.next = .finished ∨ lexeme.text ≠ [])
    (shorter : (lexeme.text ++ lexeme.rest).length ≤ bound) : (emit line lexeme).2.remaining < bound + 1 := by
  by_cases finished : lexeme.next = .finished
  · simp [emit, remaining, finished]
  · have positive := List.length_pos_iff.mpr (progress.resolve_left finished)
    rw [List.length_append] at shorter
    have unfinished : (emit line lexeme).2.remaining = lexeme.rest.length + 1 := if_neg finished
    omega

theorem after_blanks_remaining (line : Nat) (input : List Char) :
    (afterBlanks line input).2.remaining < input.length + 1 := by
  have bound := (List.dropWhile_suffix isBlank (l := input)).length_le
  simp only [afterBlanks]
  cases outcome : Lexeme.read (input.dropWhile isBlank) with
  | error cause => simp [halt, remaining]
  | ok lexeme =>
      have reads := Lexeme.reads_of_read _ lexeme outcome
      apply emit_remaining
      · exact reads.progress
      · rw [reads.append]
        exact bound

theorem next_remaining (lexer following : Lexer) (token : Token) (step : lexer.next? = some (token, following)) :
    following.remaining < lexer.remaining := by
  have target : (token, following).2.remaining < lexer.remaining := by
    cases place : lexer.place with
    | finished => simp [next?, place] at step
    | gap =>
        simp only [next?, place, Option.some.injEq] at step
        rw [← step]
        simpa [remaining, place] using after_blanks_remaining lexer.line lexer.rest
    | chain =>
        simp only [next?, place] at step
        cases dotted : Lexeme.readDotted? lexer.rest with
        | none =>
            simp only [dotted, Option.some.injEq] at step
            rw [← step]
            simpa [remaining, place] using after_blanks_remaining lexer.line lexer.rest
        | some lexeme =>
            simp only [dotted, Option.some.injEq] at step
            rw [← step]
            have shorter := emit_remaining lexer.line lexeme lexer.rest.length
              (.inr (Lexeme.dotted_token _ lexeme dotted).written)
              (Nat.le_of_eq (congrArg List.length (Lexeme.read_dotted_append _ lexeme dotted)))
            simpa [remaining, place] using shorter
  exact target

def tokens (lexer : Lexer) : List Token :=
  match _step : lexer.next? with
  | none => []
  | some (token, following) => token :: tokens following
termination_by lexer.remaining
decreasing_by exact next_remaining lexer following token _step

theorem tokens_of_none (lexer : Lexer) (ended : lexer.next? = none) : lexer.tokens = [] := by
  rw [tokens]
  split
  · rfl
  · rename_i step
    simp [ended] at step

theorem tokens_of_some (lexer following : Lexer) (token : Token) (step : lexer.next? = some (token, following)) :
    lexer.tokens = token :: following.tokens := by
  rw [tokens]
  split
  · rename_i ended
    simp [step] at ended
  · rename_i other
    rw [step] at other
    cases other
    rfl

-- Takes `count` tokens one by one, with none for each that is asked for after the last.
def pull : Nat → Lexer → List (Option Token) × Lexer
  | 0, lexer => ([], lexer)
  | count + 1, lexer =>
      match lexer.next? with
      | none =>
          let result := pull count lexer
          (none :: result.1, result.2)
      | some (token, following) =>
          let result := pull count following
          (some token :: result.1, result.2)

theorem pull_of_none (lexer : Lexer) (count : Nat) (ended : lexer.next? = none) :
    lexer.pull count = (List.replicate count none, lexer) := by
  induction count with
  | zero => rfl
  | succ count ih => simp [pull, ended, ih, List.replicate_succ]

end Lexer

def tokenize (sql : String) : List Token :=
  (Lexer.ofString sql).tokens

end SqlOutline
