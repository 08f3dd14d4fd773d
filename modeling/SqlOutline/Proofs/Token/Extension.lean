import SqlOutline.Proofs.Token.Concatenation
import SqlOutline.Proofs.Token.Ending

set_option autoImplicit false

namespace SqlOutline

-- The last one of these tokens is final, whatever they are followed by.
def Settled (back : List Char) (front rest : List Token) : Prop :=
  ∀ last ∈ front.getLast?, last.kind.isClosed = true ∨ SameBoundary last.kind [] back ∨
    rest.head?.map Token.kind ≠ some .endOfInput

namespace Lexer

theorem single_prefix {front rest : List Token} (token : Token) (split : [token] = front ++ rest) (followed : rest ≠ [])
    (longer : List Token) : front <+: longer := by
  rcases List.append_eq_singleton_iff.mp split.symm with ⟨rfl, _⟩ | ⟨_, none⟩
  · exact List.nil_prefix
  · exact absurd none followed

-- A token that others follow stays as it is, if not for what is left of its own text, then because it is settled.
theorem stays_before (back : List Char) (lexeme : Lexeme) (text : String) (line : Nat) (front rest : List Token)
    (unfinished : lexeme.next ≠ .finished) (split : tokens ⟨lexeme.rest, line, lexeme.next⟩ = front ++ rest)
    (followed : rest ≠ []) (settled : Settled back (⟨lexeme.kind, text, line⟩ :: front) rest) :
    lexeme.StaysBefore (lexeme.rest ++ back) := by
  cases ended : lexeme.rest with
  | cons c others => exact .inr (.inl (by rw [ended]; rfl))
  | nil =>
      -- The text is at its end, so only the end of the input comes after this token.
      have blank : Blank [] := nofun
      rw [ended, tokens_of_end _ unfinished blank] at split
      rcases List.append_eq_singleton_iff.mp split.symm with ⟨rfl, rfl⟩ | ⟨_, none⟩
      · rcases settled _ rfl with closed | boundary | inside
        · exact .inl closed
        · exact .inr (by rw [ended]; exact boundary)
        · exact absurd rfl inside
      · exact absurd none followed

theorem tokens_extended (back : List Char) (lexer : Lexer) (front rest : List Token) (split : lexer.tokens = front ++ rest)
    (followed : rest ≠ []) (settled : Settled back front rest) :
    front <+: tokens ⟨lexer.rest ++ back, lexer.line, lexer.place⟩ := by
  induction lexer using advance_induction generalizing front with
  | finished lexer finished =>
      rw [tokens_of_finished lexer finished] at split
      exact absurd (List.nil_eq_append_iff.mp split).2 followed
  | taken gap lexeme line place takes ih =>
      cases front with
      | nil => exact List.nil_prefix
      | cons token front =>
          rw [tokens_of_takes line takes, List.cons_append] at split
          obtain ⟨rfl, further⟩ := List.cons.inj split
          have stays := stays_before back lexeme _ _ front rest takes.isToken.unfinished further followed settled
          have longer := tokens_of_takes line (takes.replaced gap _ takes.blank .rfl stays)
          simp only [List.append_assoc] at longer ⊢
          rw [longer, List.prefix_cons_inj]
          refine ih front further fun last found => settled last ?_
          cases front with
          | nil => contradiction
          | cons => exact found
  | ended gap line place unfinished blank =>
      rw [tokens_of_end line unfinished blank] at split
      exact single_prefix _ split followed _
  | failed gap tail line place cause fails =>
      rw [tokens_of_fails line fails] at split
      exact single_prefix _ split followed _

end Lexer

theorem tokenize_extended (front back : String) (first rest : List Token) (split : tokenize front = first ++ rest)
    (followed : rest ≠ []) (settled : Settled back.toList first rest) : first <+: tokenize (front ++ back) := by
  have kept := Lexer.tokens_extended back.toList (Lexer.ofString front) first rest split followed settled
  rw [tokenize, Lexer.ofString, String.toList_append]
  exact kept

theorem settled_inside (back : List Char) (front rest : List Token)
    (inside : rest.head?.map Token.kind ≠ some .endOfInput) : Settled back front rest :=
  fun _ _ => .inr (.inr inside)

-- All tokens before an error are final, and all tokens before the last one in a text without an error.
theorem tokenize_final (front back : String) :
    ((tokenize front).getLast?.map Token.kind = some .error → (tokenize front).dropLast <+: tokenize (front ++ back)) ∧
      ((tokenize front).getLast?.map Token.kind = some .endOfInput →
        (tokenize front).dropLast.dropLast <+: tokenize (front ++ back)) := by
  obtain ⟨tokens, terminal, whole, ends, goOn⟩ := (tokenize_stream front).split
  rw [whole, List.getLast?_concat, List.dropLast_concat]
  constructor
  · intro broken
    have inside : [terminal].head?.map Token.kind ≠ some .endOfInput := by
      simp only [List.head?_cons, broken]
      exact nofun
    exact tokenize_extended front back tokens [terminal] whole nofun (settled_inside _ _ _ inside)
  · intro _
    by_cases empty : tokens = []
    · rw [empty]
      exact List.nil_prefix
    · have goesOn := goOn _ (List.getLast_mem empty)
      have inside : [tokens.getLast empty, terminal].head?.map Token.kind ≠ some .endOfInput := by
        intro ended
        rw [Option.some.inj ended] at goesOn
        contradiction
      rw [← List.dropLast_concat_getLast empty, List.append_assoc] at whole
      exact tokenize_extended front back tokens.dropLast _ whole nofun (settled_inside _ _ _ inside)

theorem tokenize_final_comment :
    (tokenize "a. -").getLast?.map Token.kind = some .endOfInput ∧
      tokenize "a. -" = [⟨.identifier, "a", 1⟩, ⟨.dot, ".", 1⟩, ⟨.operator, "-", 1⟩, ⟨.endOfInput, "", 1⟩] ∧
      (tokenize "a. -").dropLast.dropLast <+: tokenize ("a. -" ++ "- b") ∧
      (tokenize "a\n'b").getLast?.map Token.kind = some .error ∧
      tokenize "a\n'b" = [⟨.identifier, "a", 1⟩, ⟨.error, "unterminated quoted string", 2⟩] ∧
      (tokenize "a\n'b").dropLast <+: tokenize ("a\n'b" ++ "'") := by
  have complete : (tokenize "a. -").getLast?.map Token.kind = some .endOfInput := by decide +kernel
  have broken : (tokenize "a\n'b").getLast?.map Token.kind = some .error := by decide +kernel
  refine ⟨complete, by decide +kernel, (tokenize_final "a. -" "- b").2 complete, broken, by decide +kernel,
    (tokenize_final "a\n'b" "'").1 broken⟩

end SqlOutline
