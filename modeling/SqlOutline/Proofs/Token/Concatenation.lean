import SqlOutline.Proofs.Token.Advance

set_option autoImplicit false

namespace SqlOutline

def Token.movedDown (lines : Nat) (token : Token) : Token :=
  { token with line := token.line + lines }

namespace Lexer

theorem tokens_moved_down (lines : Nat) (lexer : Lexer) :
    tokens ⟨lexer.rest, lexer.line + lines, lexer.place⟩ = lexer.tokens.map (Token.movedDown lines) := by
  induction lexer using advance_induction with
  | finished lexer finished =>
      rw [tokens_of_finished lexer finished, List.map_nil]
      exact tokens_of_finished _ finished
  | taken gap lexeme line place takes ih =>
      rw [tokens_of_takes _ takes, tokens_of_takes _ takes, List.map_cons, ← ih]
      simp only [Token.movedDown, Nat.add_right_comm]
  | ended gap line place unfinished blank =>
      rw [tokens_of_end _ unfinished blank, tokens_of_end _ unfinished blank, List.map_singleton]
      simp only [Token.movedDown, Nat.add_right_comm]
  | failed gap tail line place cause fails =>
      rw [tokens_of_fails _ fails, tokens_of_fails _ fails, List.map_singleton]
      simp only [Token.movedDown, halt]
      split <;> simp only [Nat.add_right_comm]

theorem tokens_of_blanks (line : Nat) (place : Place) (gap rest : List Char) (unfinished : place ≠ .finished)
    (blank : Blank gap) (written : gap ≠ []) :
    tokens ⟨gap ++ rest, line, place⟩ = tokensFrom (line + newlines gap) rest := by
  have whole := List.takeWhile_append_dropWhile (p := isBlank) (l := rest)
  have further : Blank (rest.takeWhile isBlank) := List.all_eq_true.mp List.all_takeWhile
  have starts := pending_drop_while rest
  generalize rest.takeWhile isBlank = more at whole further
  generalize rest.dropWhile isBlank = pending at whole starts
  have together : Blank (gap ++ more) := List.forall_mem_append.mpr ⟨blank, further⟩
  have gapAfter : place.after (gap ++ more) = .gap := if_neg (List.append_ne_nil_of_left_ne_nil written more)
  have stays : Place.after .gap more = .gap := by simp [Place.after]
  apply tokens_of_same_next
  rw [← whole, ← List.append_assoc, next_of_gap line place _ pending unfinished together starts,
    next_of_gap _ .gap more pending (by decide) further starts, gapAfter, stays, newlines_append, Nat.add_assoc]

theorem newline_boundary (kind : TokenKind) (rest back : List Char) : SameBoundary kind rest (rest ++ '\n' :: back) := by
  cases rest with
  | nil => exact .inr ⟨nofun, first_holds '\n' back rfl, fun _ => first_holds '\n' back rfl⟩
  | cons c rest => exact .inl rfl

theorem tokens_append_newline (back : List Char) (lexer : Lexer) (unfinished : lexer.place ≠ .finished)
    (complete : lexer.tokens.getLast?.map Token.kind = some .endOfInput) :
    tokens ⟨lexer.rest ++ '\n' :: back, lexer.line, lexer.place⟩ =
      lexer.tokens.dropLast ++ tokensFrom (lexer.line + newlines lexer.rest + 1) back := by
  induction lexer using advance_induction with
  | finished lexer finished => exact absurd finished unfinished
  | taken gap lexeme line place takes ih =>
      have further := tokens_ne_nil ⟨lexeme.rest, line + newlines gap + newlines lexeme.text, lexeme.next⟩
        takes.isToken.unfinished
      rw [tokens_of_takes line takes, List.getLast?_cons_of_ne_nil further] at complete
      have longer := takes.replaced gap (lexeme.rest ++ '\n' :: back) takes.blank .rfl (.inr (newline_boundary _ _ back))
      have moved := tokens_of_takes line longer
      simp only [List.append_assoc] at moved ⊢
      rw [moved, ih takes.isToken.unfinished complete, tokens_of_takes line takes, List.dropLast_cons_of_ne_nil further]
      simp only [newlines_append, List.cons_append, Nat.add_assoc]
  | ended gap line place unfinished blank =>
      have together : Blank (gap ++ ['\n']) := List.forall_mem_append.mpr ⟨blank, List.forall_mem_singleton.mpr rfl⟩
      have skipped := tokens_of_blanks line place _ back unfinished together (List.append_ne_nil_of_right_ne_nil _ nofun)
      rw [List.append_assoc, List.singleton_append] at skipped
      rw [skipped, tokens_of_end line unfinished blank, newlines_append, Nat.add_assoc]
      rfl
  | failed gap tail line place cause fails =>
      rw [tokens_of_fails line fails] at complete
      simp [halt] at complete

end Lexer

theorem tokenize_append_newline (front back : String)
    (complete : (tokenize front).getLast?.map Token.kind = some .endOfInput) :
    tokenize (front ++ "\n" ++ back) =
      (tokenize front).dropLast ++ (tokenize back).map (Token.movedDown (1 + front.toList.count '\n')) := by
  have text : (front ++ "\n" ++ back).toList = front.toList ++ '\n' :: back.toList := by simp [String.toList_append]
  have joined := Lexer.tokens_append_newline back.toList (Lexer.ofString front) nofun complete
  have moved := Lexer.tokens_moved_down (1 + newlines front.toList) (Lexer.ofString back)
  have below : 1 + newlines front.toList + 1 = 1 + (1 + newlines front.toList) := Nat.add_comm _ _
  simp only [tokenize, Lexer.ofString, text] at joined moved ⊢
  rw [joined, below]
  exact congrArg _ moved

-- The first text ends inside a chain, the second breaks off.
theorem tokenize_append_newline_chain :
    (tokenize "t.").getLast?.map Token.kind = some .endOfInput ∧
      tokenize ("t." ++ "\n" ++ "1 'it\n") =
        [⟨.identifier, "t", 1⟩, ⟨.dot, ".", 1⟩, ⟨.number, "1", 2⟩, ⟨.error, "unterminated quoted string", 2⟩] := by
  have complete : (tokenize "t.").getLast?.map Token.kind = some .endOfInput := by decide +kernel
  have joined := tokenize_append_newline "t." "1 'it\n" complete
  refine ⟨complete, joined.trans ?_⟩
  decide +kernel

end SqlOutline
