import SqlOutline.Proofs.Token.Ending

set_option autoImplicit false

namespace SqlOutline

namespace Lexer

theorem tokens_length_le (lexer : Lexer) : lexer.tokens.length ≤ lexer.remaining := by
  induction lexer using moves_induction with
  | finished lexer finished => simp [tokens_of_finished lexer finished]
  | move lexer token following step _ ih =>
      have fewer := next_remaining lexer following token step
      rw [tokens_of_some lexer following token step, List.length_cons]
      omega

theorem pull_indexed (lexer : Lexer) (count : Nat) :
    (lexer.pull count).1 = (List.range count).map fun index => lexer.tokens[index]? := by
  induction count generalizing lexer with
  | zero => rfl
  | succ count ih =>
      cases step : lexer.next? with
      | none =>
          rw [pull_of_none lexer _ step, tokens_of_none lexer step]
          simp only [List.getElem?_nil, List.map_const', List.length_range]
      | some result =>
          obtain ⟨token, following⟩ := result
          rw [List.range_succ_eq_map, List.map_cons, List.map_map]
          simp only [pull, step, ih following, tokens_of_some lexer following token step, Function.comp_def,
            List.getElem?_cons_zero, Nat.succ_eq_add_one, List.getElem?_cons_succ]

theorem pull_remainder (lexer : Lexer) (count : Nat) : (lexer.pull count).2.tokens = lexer.tokens.drop count := by
  induction count generalizing lexer with
  | zero => rfl
  | succ count ih =>
      cases step : lexer.next? with
      | none => rw [pull_of_none lexer _ step, tokens_of_none lexer step, List.drop_nil]
      | some result =>
          obtain ⟨token, following⟩ := result
          simp only [pull, step, ih following, tokens_of_some lexer following token step, List.drop_succ_cons]

end Lexer

theorem tokenize_shape (sql : String) :
    (∃ front terminal, tokenize sql = front ++ [terminal] ∧
      (terminal.kind = .endOfInput ∨ terminal.kind = .error) ∧
      ∀ token ∈ front, token.kind ≠ .endOfInput ∧ token.kind ≠ .error ∧ token.text ≠ "") ∧
    (tokenize sql).length ≤ sql.length + 1 ∧
    ∀ count, ((Lexer.ofString sql).pull count).1 = (List.range count).map (fun index => (tokenize sql)[index]?) ∧
      ((Lexer.ofString sql).pull count).2.tokens = (tokenize sql).drop count := by
  obtain ⟨front, terminal, whole, ends, goOn⟩ := (tokenize_stream sql).split
  refine ⟨⟨front, terminal, whole, (TokenKind.ends_stream_iff _).mp ends, ?_⟩, ?_, fun count => ?_⟩
  · intro token member
    have goesOn := goOn token member
    rw [Bool.eq_false_iff, ne_eq, TokenKind.ends_stream_iff, not_or] at goesOn
    have among : token ∈ tokenize sql := whole ▸ List.mem_append_left [terminal] member
    exact ⟨goesOn.1, goesOn.2, Lexer.token_text (Lexer.ofString sql) token among goesOn.1 goesOn.2⟩
  · exact (Lexer.ofString sql).tokens_length_le
  · exact ⟨Lexer.pull_indexed _ count, Lexer.pull_remainder _ count⟩

end SqlOutline
