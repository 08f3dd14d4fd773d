import SqlOutline.Proofs.Token.Advance

set_option autoImplicit false

namespace SqlOutline

def TokenKind.endsStream : TokenKind → Bool
  | .endOfInput | .error => true
  | _ => false

theorem TokenKind.ends_stream_iff (kind : TokenKind) : kind.endsStream = true ↔ kind = .endOfInput ∨ kind = .error := by
  cases kind <;> simp [endsStream]

theorem TokenKind.name_goes_on (kind : TokenKind) (isName : kind.isName = true) : kind.endsStream = false := by
  rcases (is_name_iff kind).mp isName with rfl | rfl <;> rfl

theorem TokenKind.comment_goes_on (kind : TokenKind) (isComment : kind.isComment = true) : kind.endsStream = false := by
  rcases (is_comment_iff kind).mp isComment with rfl | rfl <;> rfl

theorem Token.keyword_goes_on (token : Token) (keyword : Keyword) (spelled : token.isKeyword keyword = true) :
    token.kind.endsStream = false := by
  rw [token.kind_of_keyword keyword ((token.is_keyword_iff keyword).mp spelled)]
  rfl

inductive TokenStream : List Token → Prop where
  | last (token : Token) (ends : token.kind.endsStream = true) : TokenStream [token]
  | more (token : Token) (rest : List Token) (goesOn : token.kind.endsStream = false) (stream : TokenStream rest) :
      TokenStream (token :: rest)

theorem TokenStream.ne_nil {tokens : List Token} (stream : TokenStream tokens) : tokens ≠ [] := by
  cases stream <;> exact List.cons_ne_nil _ _

theorem TokenStream.last_ends {tokens : List Token} (stream : TokenStream tokens) :
    ∀ token ∈ tokens.getLast?, token.kind.endsStream = true := by
  induction stream with
  | last token ends => exact fun _ same => Option.some.inj same ▸ ends
  | more token rest goesOn stream ih =>
      rw [List.getLast?_cons_of_ne_nil stream.ne_nil]
      exact ih

theorem TokenStream.split {tokens : List Token} (stream : TokenStream tokens) :
    ∃ front terminal, tokens = front ++ [terminal] ∧ terminal.kind.endsStream = true ∧
      ∀ token ∈ front, token.kind.endsStream = false := by
  induction stream with
  | last token ends => exact ⟨[], token, rfl, ends, nofun⟩
  | more token rest goesOn _ ih =>
      obtain ⟨front, terminal, rfl, ends, goOn⟩ := ih
      exact ⟨token :: front, terminal, rfl, ends, List.forall_mem_cons.mpr ⟨goesOn, goOn⟩⟩

theorem Lexer.tokens_stream (lexer : Lexer) (unfinished : lexer.place ≠ .finished) : TokenStream lexer.tokens := by
  induction lexer using advance_induction with
  | finished lexer finished => exact absurd finished unfinished
  | taken gap lexeme line place takes ih =>
      have goesOn : lexeme.kind.endsStream = false := by
        rw [Bool.eq_false_iff, ne_eq, TokenKind.ends_stream_iff]
        exact not_or.mpr ⟨takes.isToken.inside, takes.isToken.readable⟩
      rw [tokens_of_takes line takes]
      exact .more _ _ goesOn (ih takes.isToken.unfinished)
  | ended gap line place unfinished blank =>
      rw [tokens_of_end line unfinished blank]
      exact .last _ rfl
  | failed gap tail line place cause fails =>
      rw [tokens_of_fails line fails]
      exact .last _ rfl

theorem tokenize_stream (sql : String) : TokenStream (tokenize sql) :=
  (Lexer.ofString sql).tokens_stream nofun

structure Ahead (all tokens : List Token) : Prop where
  suffix : tokens <:+ all
  stream : TokenStream tokens

namespace Ahead

variable {all front rest : List Token} {token : Token}

theorem mem (ahead : Ahead all (token :: rest)) : token ∈ all :=
  ahead.suffix.mem List.mem_cons_self

theorem tail (ahead : Ahead all (token :: rest)) (goesOn : token.kind.endsStream = false) : Ahead all rest := by
  refine ⟨(List.suffix_cons token rest).trans ahead.suffix, ?_⟩
  cases ahead.stream with
  | last _ ends =>
      rw [goesOn] at ends
      contradiction
  | more _ _ _ stream => exact stream

theorem drop (ahead : Ahead all (front ++ rest)) (goOn : ∀ token ∈ front, token.kind.endsStream = false) :
    Ahead all rest := by
  induction front with
  | nil => exact ahead
  | cons token front ih =>
      obtain ⟨goesOn, others⟩ := List.forall_mem_cons.mp goOn
      exact ih (ahead.tail goesOn) others

theorem last (ahead : Ahead all (token :: rest)) (ends : token.kind.endsStream = true) : all.getLast? = some token := by
  have suffix := ahead.suffix
  cases ahead.stream with
  | last =>
      obtain ⟨front, rfl⟩ := suffix
      exact List.getLast?_concat
  | more _ _ goesOn =>
      rw [goesOn] at ends
      contradiction

end Ahead

theorem ahead_of_tokenize (sql : String) : Ahead (tokenize sql) (tokenize sql) :=
  ⟨List.suffix_refl _, tokenize_stream sql⟩

end SqlOutline
