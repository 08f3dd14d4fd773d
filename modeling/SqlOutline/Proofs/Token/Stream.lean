import SqlOutline.Proofs.Sequence
import SqlOutline.Proofs.Token.Reads
import SqlOutline.Token.Lexer

set_option autoImplicit false

namespace SqlOutline

def Blank (gap : List Char) : Prop :=
  ∀ c ∈ gap, isBlank c = true

def Pending (input : List Char) : Prop :=
  ∀ c ∈ input.head?, isBlank c = false

namespace Lexer

inductive Moves : Lexer → Token → Lexer → Prop where
  | chain (pending : List Char) (line : Nat) (lexeme : Lexeme) (found : Lexeme.readDotted? pending = some lexeme) :
      Moves ⟨pending, line, .chain⟩ (emit line lexeme).1 (emit line lexeme).2
  | gap (gap pending : List Char) (line : Nat) (place : Place) (lexeme : Lexeme) (blank : Blank gap)
      (starts : Pending pending) (unfinished : place ≠ .finished) (reads : Lexeme.Reads pending lexeme) :
      Moves ⟨gap ++ pending, line, place⟩ (emit (line + newlines gap) lexeme).1 (emit (line + newlines gap) lexeme).2
  | halt (gap pending : List Char) (line : Nat) (place : Place) (cause : LexError) (blank : Blank gap)
      (starts : Pending pending) (unfinished : place ≠ .finished) (failed : Lexeme.read pending = .error cause) :
      Moves ⟨gap ++ pending, line, place⟩ (halt (line + newlines gap) pending cause).1
        (halt (line + newlines gap) pending cause).2

theorem pending_drop_while (input : List Char) : Pending (input.dropWhile isBlank) := by
  intro c first
  have outside := List.head?_dropWhile_not isBlank input
  rw [first] at outside
  exact outside

theorem after_blanks_moves (input : List Char) (line : Nat) (place : Place) (unfinished : place ≠ .finished) :
    Moves ⟨input, line, place⟩ (afterBlanks line input).1 (afterBlanks line input).2 := by
  have whole := List.takeWhile_append_dropWhile (p := isBlank) (l := input)
  have blank : Blank (input.takeWhile isBlank) := List.all_eq_true.mp List.all_takeWhile
  have starts := pending_drop_while input
  have moves : Moves ⟨input.takeWhile isBlank ++ input.dropWhile isBlank, line, place⟩ (afterBlanks line input).1
      (afterBlanks line input).2 := by
    simp only [afterBlanks]
    cases outcome : Lexeme.read (input.dropWhile isBlank) with
    | ok lexeme => exact .gap _ _ line place lexeme blank starts unfinished (Lexeme.reads_of_read _ lexeme outcome)
    | error cause => exact .halt _ _ line place cause blank starts unfinished outcome
  rwa [whole] at moves

theorem next_moves (lexer following : Lexer) (token : Token) (step : lexer.next? = some (token, following)) :
    lexer.Moves token following := by
  obtain ⟨input, line, place⟩ := lexer
  cases place with
  | finished => contradiction
  | gap =>
      have moves := after_blanks_moves input line .gap (by decide)
      rw [Option.some.inj step] at moves
      exact moves
  | chain =>
      simp only [next?] at step
      cases dotted : Lexeme.readDotted? input with
      | none =>
          have moves := after_blanks_moves input line .chain (by decide)
          rw [dotted] at step
          rw [Option.some.inj step] at moves
          exact moves
      | some lexeme =>
          rw [dotted] at step
          have moves := Moves.chain input line lexeme dotted
          rw [Option.some.inj step] at moves
          exact moves

theorem next_of_unfinished (lexer : Lexer) (unfinished : lexer.place ≠ .finished) :
    ∃ token following, lexer.next? = some (token, following) := by
  obtain ⟨input, line, place⟩ := lexer
  cases place with
  | finished => contradiction
  | gap => exact ⟨_, _, rfl⟩
  | chain =>
      simp only [next?]
      split <;> exact ⟨_, _, rfl⟩

theorem tokens_of_finished (lexer : Lexer) (finished : lexer.place = .finished) : lexer.tokens = [] :=
  tokens_of_none lexer (by simp [next?, finished])

theorem moves_induction {holds : Lexer → Prop} (finished : ∀ lexer, lexer.place = .finished → holds lexer)
    (move : ∀ lexer token following, lexer.next? = some (token, following) → lexer.Moves token following →
      holds following → holds lexer) (lexer : Lexer) : holds lexer := by
  by_cases ended : lexer.place = .finished
  · exact finished lexer ended
  · obtain ⟨token, following, step⟩ := next_of_unfinished lexer ended
    exact move lexer token following step (next_moves lexer following token step)
      (moves_induction finished move following)
termination_by lexer.remaining
decreasing_by exact next_remaining lexer following token step

theorem emitted_text (line : Nat) (lexeme : Lexeme) (isToken : lexeme.IsToken) : (emit line lexeme).1.text ≠ "" := by
  intro empty
  apply isToken.written
  rw [← String.toList_ofList (l := lexeme.text)]
  exact congrArg String.toList empty

theorem token_text (lexer : Lexer) :
    ∀ token ∈ lexer.tokens, token.kind ≠ .endOfInput → token.kind ≠ .error → token.text ≠ "" := by
  induction lexer using moves_induction with
  | finished lexer finished => simp [tokens_of_finished lexer finished]
  | move lexer token following step moves ih =>
      rw [tokens_of_some lexer following token step]
      intro entry member inside readable
      rcases List.mem_cons.mp member with rfl | member
      · cases moves with
        | chain pending line lexeme found => exact emitted_text line lexeme (Lexeme.dotted_token pending lexeme found)
        | gap gap pending line place lexeme blank starts unfinished reads =>
            rcases Lexeme.reads_token pending lexeme reads with isToken | ⟨_, rfl⟩
            · exact emitted_text _ lexeme isToken
            · exact absurd rfl inside
        | halt gap pending line place cause blank starts unfinished failed => exact absurd rfl readable
      · exact ih entry member inside readable

end Lexer

theorem names_written_tokenize (sql : String) : NamesWritten (tokenize sql) := by
  intro token member isName
  refine Lexer.token_text (Lexer.ofString sql) token member ?_ (TokenKind.not_error_of_name _ isName)
  intro ended
  rw [ended] at isName
  contradiction

end SqlOutline
