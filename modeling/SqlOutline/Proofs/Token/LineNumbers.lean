import SqlOutline.Proofs.Token.Division

set_option autoImplicit false

namespace SqlOutline

structure Layout.Numbered (layout : Layout) : Prop where
  inside : ∀ front piece back, layout.pieces = front ++ piece :: back →
    piece.2.line = 1 + (written (front ++ [piece])).toList.count '\n'
  ended : layout.terminal.kind = .endOfInput → layout.terminal.line = 1 + layout.text.toList.count '\n'
  failed : layout.terminal.kind = .error → ¬ ['/', '*'] <+: layout.tail.toList →
    layout.terminal.line = 1 + (written layout.pieces ++ layout.gap).toList.count '\n'
  unclosed : layout.terminal.kind = .error → ['/', '*'] <+: layout.tail.toList →
    layout.terminal.line = 1 + layout.text.toList.count '\n'

theorem Lexeme.unclosed_iff (input : List Char) (cause : LexError) (failed : read input = .error cause) :
    cause = .unterminatedComment ↔ ['/', '*'] <+: input := by
  have starts (c : Char) (rest : List Char) (opens : ['/', '*'] <+: c :: rest) : c = '/' :=
    (List.cons_prefix_cons.mp opens).1.symm
  cases refuses_of_read input cause failed with
  | comment body endless => exact iff_of_true rfl ⟨body, rfl⟩
  | string quote body isQuote endless =>
      refine iff_of_false nofun fun opens => ?_
      rw [starts quote body opens] at isQuote
      exact absurd isQuote (by decide)
  | backtick body => exact iff_of_false nofun fun opens => absurd (starts '`' body opens) (by decide)
  | number c d rest text after digit found member =>
      refine iff_of_false nofun fun opens => ?_
      rw [starts c rest opens] at digit
      contradiction
  | character c rest noMark noTick noQuote noOperator noWord =>
      refine iff_of_false nofun fun opens => ?_
      rw [starts c rest opens] at noOperator
      contradiction

namespace Lexer

theorem Fails.read_failed {place : Place} {gap tail : List Char} {cause : LexError} (fails : Fails place gap tail cause) :
    Lexeme.read tail = .error cause := by
  have failed := fails.failed
  cases dotted : Lexeme.readDotted? tail with
  | none =>
      rw [Lexeme.read_at_of_undotted _ tail fun _ => dotted] at failed
      exact failed
  | some lexeme =>
      by_cases chain : place.after gap = .chain
      · rw [chain, Lexeme.read_at_of_dotted tail lexeme dotted] at failed
        contradiction
      · rw [Lexeme.read_at_of_undotted _ tail fun same => absurd same chain] at failed
        exact failed

theorem pieces_numbered (pieces : List (String × Token)) (line : Nat) (place : Place) (rest : List Char)
    (more : List Token) (unfinished : place ≠ .finished) (blank : ∀ piece ∈ pieces, Blank piece.1.toList)
    (inside : ∀ piece ∈ pieces, piece.2.kind ≠ .endOfInput ∧ piece.2.kind ≠ .error)
    (reads : tokens ⟨(Layout.written pieces).toList ++ rest, line, place⟩ = pieces.map Prod.snd ++ more) :
    (∀ front piece back, pieces = front ++ piece :: back →
      piece.2.line = line + newlines (Layout.written (front ++ [piece])).toList) ∧
    ∃ next, next ≠ .finished ∧ tokens ⟨rest, line + newlines (Layout.written pieces).toList, next⟩ = more := by
  induction pieces generalizing line place with
  | nil =>
      refine ⟨fun front piece back split => ?_, place, unfinished, reads⟩
      simp at split
  | cons first pieces ih =>
      obtain ⟨gap, token⟩ := first
      obtain ⟨firstBlank, blanks⟩ := List.forall_mem_cons.mp blank
      obtain ⟨firstInside, insides⟩ := List.forall_mem_cons.mp inside
      rw [Layout.written_cons, List.append_assoc, List.append_assoc] at reads
      obtain ⟨following, takes, ends, further⟩ := piece_taken unfinished firstBlank firstInside reads
      obtain ⟨numbered, next, goesOn, rests⟩ := ih token.line following takes.isToken.unfinished blanks insides further.symm
      have below (pieces : List (String × Token)) :
          token.line + newlines (Layout.written pieces).toList =
            line + newlines (Layout.written ((gap, token) :: pieces)).toList := by
        simp only at ends
        rw [Layout.written_cons, newlines_append, newlines_append, ends]
        omega
      refine ⟨fun front piece back split => ?_, next, goesOn, by rw [← below]; exact rests⟩
      cases front with
      | nil =>
          obtain ⟨rfl, _⟩ := List.cons.inj split
          exact below []
      | cons head front =>
          obtain ⟨rfl, others⟩ := List.cons.inj split
          exact (numbered front piece back others).trans (below (front ++ [piece]))

theorem layout_numbered (layout : Layout) (sql : String) (divides : layout.Divides sql) : layout.Numbered := by
  have reads : tokens ⟨layout.text.toList, 1, .gap⟩ = layout.pieces.map Prod.snd ++ [layout.terminal] := by
    rw [divides.text]
    exact divides.tokens.symm
  have text := layout.text_to_list
  rw [text] at reads
  obtain ⟨numbered, next, unfinished, rests⟩ :=
    pieces_numbered layout.pieces 1 .gap _ _ nofun layout.blank layout.inside reads
  have before : (Layout.written layout.pieces ++ layout.gap).toList =
      (Layout.written layout.pieces).toList ++ layout.gap.toList := String.toList_append
  rcases terminal_taken unfinished layout.blankEnd layout.starts rests with ⟨empty, terminal⟩ | ⟨cause, fails, terminal⟩
  · have line : layout.terminal.line = 1 + newlines layout.text.toList := by
      rw [terminal, text, empty, List.append_nil, newlines_append, Nat.add_assoc]
    exact ⟨numbered, fun _ => line, by rw [terminal]; exact nofun, by rw [terminal]; exact nofun⟩
  · have closed := Lexeme.unclosed_iff _ cause fails.read_failed
    refine ⟨numbered, by rw [terminal]; exact nofun, fun _ noOpening => ?_, fun _ opening => ?_⟩
    · change layout.terminal.line = 1 + newlines (Layout.written layout.pieces ++ layout.gap).toList
      rw [terminal, before, newlines_append, halt, if_neg fun same => noOpening (closed.mp same), Nat.add_assoc]
    · change layout.terminal.line = 1 + newlines layout.text.toList
      rw [terminal, text, newlines_append, newlines_append, halt, if_pos (closed.mpr opening)]
      simp only [Nat.add_assoc]

theorem lines_ascend (lexer : Lexer) :
    (∀ token ∈ lexer.tokens, lexer.line ≤ token.line) ∧
      lexer.tokens.Pairwise fun token later => token.line ≤ later.line := by
  induction lexer using advance_induction with
  | finished lexer finished =>
      rw [tokens_of_finished lexer finished]
      exact ⟨nofun, .nil⟩
  | taken gap lexeme line place takes ih =>
      obtain ⟨below, ascending⟩ := ih
      rw [tokens_of_takes line takes]
      refine ⟨List.forall_mem_cons.mpr ⟨?_, fun token member => ?_⟩, .cons below ascending⟩
      · simp only [Nat.add_assoc, Nat.le_add_right]
      · have least := below token member
        simp only at least ⊢
        omega
  | ended gap line place unfinished blank =>
      rw [tokens_of_end line unfinished blank]
      exact ⟨List.forall_mem_singleton.mpr (Nat.le_add_right ..), List.pairwise_singleton ..⟩
  | failed gap tail line place cause fails =>
      rw [tokens_of_fails line fails]
      refine ⟨List.forall_mem_singleton.mpr ?_, List.pairwise_singleton ..⟩
      simp only [halt]
      split <;> omega

theorem lines_bounded (lexer : Lexer) : ∀ token ∈ lexer.tokens, token.line ≤ lexer.line + newlines lexer.rest := by
  induction lexer using advance_induction with
  | finished lexer finished =>
      rw [tokens_of_finished lexer finished]
      exact nofun
  | taken gap lexeme line place takes ih =>
      rw [tokens_of_takes line takes]
      simp only [newlines_append] at ih ⊢
      refine List.forall_mem_cons.mpr ⟨?_, fun token member => ?_⟩
      · simp only
        omega
      · have most := ih token member
        omega
  | ended gap line place unfinished blank =>
      rw [tokens_of_end line unfinished blank]
      exact List.forall_mem_singleton.mpr (Nat.le_refl _)
  | failed gap tail line place cause fails =>
      rw [tokens_of_fails line fails]
      refine List.forall_mem_singleton.mpr ?_
      simp only [halt, newlines_append]
      split <;> omega

end Lexer

theorem tokenize_line_numbers (sql : String) :
    (∃ layout : Layout, layout.Divides sql) ∧ (∀ layout : Layout, layout.Divides sql → layout.Numbered) ∧
      (tokenize sql).Pairwise fun token later => token.line ≤ later.line :=
  ⟨exists_division sql, fun layout divides => Lexer.layout_numbered layout sql divides,
    (Lexer.lines_ascend (Lexer.ofString sql)).2⟩

-- A text that ends, one with a string that is never closed, and one with such a comment.
theorem tokenize_line_numbers_unclosed :
    (∃ layout : Layout, layout.Divides "x\n /* d\n */ y\n\n" ∧ layout.Numbered ∧ layout.tokens =
      [⟨.identifier, "x", 1⟩, ⟨.multiLineComment, "/* d\n */", 3⟩, ⟨.identifier, "y", 3⟩, ⟨.endOfInput, "", 5⟩]) ∧
    (∃ layout : Layout, layout.Divides "x\n /* d\n */ y\n\n 'b\n" ∧ layout.Numbered ∧ layout.tokens =
      [⟨.identifier, "x", 1⟩, ⟨.multiLineComment, "/* d\n */", 3⟩, ⟨.identifier, "y", 3⟩,
        ⟨.error, "unterminated quoted string", 5⟩]) ∧
    ∃ layout : Layout, layout.Divides "x\n /* d\n */ y\n\n /* b\n" ∧ layout.Numbered ∧ layout.tokens =
      [⟨.identifier, "x", 1⟩, ⟨.multiLineComment, "/* d\n */", 3⟩, ⟨.identifier, "y", 3⟩,
        ⟨.error, "eof found in middle of multi-line comment", 6⟩] := by
  have numbered (sql : String) (tokens : List Token) (read : tokenize sql = tokens) :
      ∃ layout : Layout, layout.Divides sql ∧ layout.Numbered ∧ layout.tokens = tokens := by
    obtain ⟨⟨layout, divides⟩, lines, _⟩ := tokenize_line_numbers sql
    exact ⟨layout, divides, lines layout divides, divides.tokens.trans read⟩
  exact ⟨numbered _ _ (by decide +kernel), numbered _ _ (by decide +kernel), numbered _ _ (by decide +kernel)⟩

end SqlOutline
