import SqlOutline.Proofs.Token.Stream

set_option autoImplicit false

namespace SqlOutline

-- A text taken apart: the tokens, each with the blanks before it, then the blanks before the last
-- token, and the tail that was not read. There is a tail exactly if the last token is an error, and
-- it starts with the lexeme that the error is about.
structure Layout where
  pieces : List (String × Token)
  gap : String
  tail : String
  terminal : Token
  blank : ∀ piece ∈ pieces, Blank piece.1.toList
  inside : ∀ piece ∈ pieces, piece.2.kind ≠ .endOfInput ∧ piece.2.kind ≠ .error
  blankEnd : Blank gap.toList
  ends : (terminal.kind = .endOfInput ∧ terminal.text = "" ∧ tail = "") ∨
    (terminal.kind = .error ∧ tail ≠ "" ∧ Pending tail.toList ∧
      ∃ cause, Lexeme.read tail.toList = .error cause ∧ terminal.text = cause.message)

namespace Layout

def tokens (layout : Layout) : List Token :=
  layout.pieces.map Prod.snd ++ [layout.terminal]

def text (layout : Layout) : String :=
  String.join (layout.pieces.map fun piece => piece.1 ++ piece.2.text) ++ layout.gap ++ layout.tail

theorem exists_cons (layout : Layout) (gap : List Char) (token : Token) (blank : Blank gap)
    (inside : token.kind ≠ .endOfInput ∧ token.kind ≠ .error) :
    ∃ longer : Layout, longer.tokens = token :: layout.tokens ∧
      longer.text.toList = gap ++ token.text.toList ++ layout.text.toList := by
  have blanks : ∀ piece ∈ (String.ofList gap, token) :: layout.pieces, Blank piece.1.toList := by
    intro piece member
    rcases List.mem_cons.mp member with rfl | member
    · rwa [String.toList_ofList]
    · exact layout.blank piece member
  have kinds : ∀ piece ∈ (String.ofList gap, token) :: layout.pieces,
      piece.2.kind ≠ .endOfInput ∧ piece.2.kind ≠ .error := by
    intro piece member
    rcases List.mem_cons.mp member with rfl | member
    · exact inside
    · exact layout.inside piece member
  refine ⟨{ layout with pieces := (String.ofList gap, token) :: layout.pieces, blank := blanks, inside := kinds }, rfl, ?_⟩
  simp [text, String.toList_append]

end Layout

namespace Lexer

theorem emitted_layout (layout : Layout) (gap : List Char) (line : Nat) (lexeme : Lexeme) (blank : Blank gap)
    (isToken : lexeme.IsToken) (spelled : layout.tokens = (emit line lexeme).2.tokens)
    (covered : layout.text.toList = (emit line lexeme).2.rest) :
    ∃ longer : Layout, longer.tokens = (emit line lexeme).1 :: (emit line lexeme).2.tokens ∧
      longer.text.toList = gap ++ (lexeme.text ++ lexeme.rest) := by
  obtain ⟨longer, tokens, text⟩ := layout.exists_cons gap (emit line lexeme).1 blank ⟨isToken.inside, isToken.readable⟩
  refine ⟨longer, by rw [tokens, spelled], ?_⟩
  rw [text, covered, List.append_assoc]
  simp [emit]

theorem exists_layout (lexer : Lexer) (unfinished : lexer.place ≠ .finished) :
    ∃ layout : Layout, layout.tokens = lexer.tokens ∧ layout.text.toList = lexer.rest := by
  induction lexer using moves_induction with
  | finished lexer finished => exact absurd finished unfinished
  | move lexer token following step moves ih =>
      rw [tokens_of_some lexer following token step]
      cases moves with
      | chain pending line lexeme found =>
          have isToken := Lexeme.dotted_token pending lexeme found
          obtain ⟨layout, spelled, covered⟩ := ih isToken.unfinished
          have whole := Lexeme.read_dotted_append pending lexeme found
          simpa [whole] using emitted_layout layout [] line lexeme nofun isToken spelled covered
      | gap gap pending line place lexeme blank starts _ reads =>
          rcases Lexeme.reads_token pending lexeme reads with isToken | ⟨rfl, rfl⟩
          · obtain ⟨layout, spelled, covered⟩ := ih isToken.unfinished
            simpa [reads.append] using emitted_layout layout gap _ lexeme blank isToken spelled covered
          · refine ⟨⟨[], String.ofList gap, "", (emit (line + newlines gap) ⟨.endOfInput, [], [], .finished⟩).1,
              nofun, nofun, ?_, .inl ⟨rfl, rfl, rfl⟩⟩, ?_, ?_⟩
            · rwa [String.toList_ofList]
            · rw [tokens_of_finished _ rfl]
              rfl
            · simp [Layout.text]
      | halt gap pending line place cause blank starts _ failed =>
          have written : String.ofList pending ≠ "" := by
            intro empty
            have none := congrArg String.toList empty
            rw [String.toList_ofList] at none
            rw [none] at failed
            contradiction
          refine ⟨⟨[], String.ofList gap, String.ofList pending, (Lexer.halt (line + newlines gap) pending cause).1,
            nofun, nofun, ?_, .inr ⟨rfl, written, ?_, cause, ?_, rfl⟩⟩, ?_, ?_⟩
          · rwa [String.toList_ofList]
          · rwa [String.toList_ofList]
          · rwa [String.toList_ofList]
          · rw [tokens_of_finished _ rfl]
            rfl
          · simp [Layout.text]

end Lexer

theorem tokenize_lossless (sql : String) : ∃ layout : Layout, layout.tokens = tokenize sql ∧ layout.text = sql := by
  obtain ⟨layout, spelled, covered⟩ := Lexer.exists_layout (Lexer.ofString sql) nofun
  exact ⟨layout, spelled, String.toList_inj.mp covered⟩

end SqlOutline
