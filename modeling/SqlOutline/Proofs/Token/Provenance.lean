import SqlOutline.Proofs.Token.Ending
import SqlOutline.Proofs.Token.Stream

set_option autoImplicit false

namespace SqlOutline

-- Only a token that ends its stream may have no text.
def TokensWritten (tokens : List Token) : Prop :=
  ∀ token ∈ tokens, token.kind.endsStream = false → token.text ≠ ""

theorem tokens_written_tokenize (sql : String) : TokensWritten (tokenize sql) := by
  intro token member goesOn
  rw [Bool.eq_false_iff, ne_eq, TokenKind.ends_stream_iff, not_or] at goesOn
  exact Lexer.token_text (Lexer.ofString sql) token member goesOn.1 goesOn.2

structure TextOf (tokens : List Token) (kinds : List TokenKind) (text : String) : Prop where
  written : text ≠ ""
  found : ∃ token ∈ tokens, token.kind ∈ kinds ∧ token.text = text

theorem text_of_identifier {tokens : List Token} {token : Token} (written : TokensWritten tokens) (member : token ∈ tokens)
    (isIdentifier : token.kind = .identifier) : TextOf tokens [.identifier] token.text :=
  ⟨written token member (by rw [isIdentifier]; rfl), token, member, List.mem_singleton.mpr isIdentifier, rfl⟩

theorem text_of_name {tokens : List Token} {token : Token} (written : TokensWritten tokens) (member : token ∈ tokens)
    (isName : token.kind.isName = true) : TextOf tokens [.identifier, .backtickedIdentifier] token.text := by
  refine ⟨written token member (TokenKind.name_goes_on _ isName), token, member, ?_, rfl⟩
  rcases (TokenKind.is_name_iff _).mp isName with kind | kind <;> simp [kind]

-- The texts are those of some comments among the tokens, each taken once and all in the order of the tokens.
def CommentsOf (tokens : List Token) (texts : List String) : Prop :=
  ∃ comments, List.Sublist comments tokens ∧
    (∀ token ∈ comments, token.kind.isComment = true ∧ token.text ≠ "") ∧ comments.map Token.text = texts

def CommentsBefore (all tokens : List Token) (texts : List String) : Prop :=
  ∃ front, front ++ tokens = all ∧ CommentsOf front texts

namespace CommentsBefore

variable {all rest : List Token} {token : Token} {texts : List String}

theorem start (all : List Token) : CommentsBefore all all [] :=
  ⟨[], rfl, [], .slnil, nofun, rfl⟩

theorem drop (front : List Token) (before : CommentsBefore all (front ++ rest) texts) : CommentsBefore all rest texts := by
  obtain ⟨read, rfl, comments, among, areComments, same⟩ := before
  exact ⟨read ++ front, List.append_assoc .., comments, among.trans (List.sublist_append_left ..), areComments, same⟩

theorem tail (before : CommentsBefore all (token :: rest) texts) : CommentsBefore all rest texts :=
  drop [token] before

theorem comment (before : CommentsBefore all (token :: rest) texts) (isComment : token.kind.isComment = true)
    (written : token.text ≠ "") : CommentsBefore all rest (texts ++ [token.text]) := by
  obtain ⟨read, rfl, comments, among, areComments, rfl⟩ := before
  refine ⟨read ++ [token], List.append_assoc .., comments ++ [token], among.append (.refl _), ?_, List.map_append⟩
  exact List.forall_mem_append.mpr ⟨areComments, List.forall_mem_singleton.mpr ⟨isComment, written⟩⟩

theorem comments_of (before : CommentsBefore all rest texts) : CommentsOf all texts := by
  obtain ⟨read, rfl, comments, among, areComments, same⟩ := before
  exact ⟨comments, among.trans (List.sublist_append_left ..), areComments, same⟩

end CommentsBefore

end SqlOutline
