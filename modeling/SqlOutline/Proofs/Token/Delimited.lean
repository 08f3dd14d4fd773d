import SqlOutline.Proofs.Token.Concatenation
import SqlOutline.Proofs.Token.Lines

set_option autoImplicit false

namespace SqlOutline

namespace TokenKind

def Opens : TokenKind → List Char → Prop
  | .string, opening => opening = ['"'] ∨ opening = ['\'']
  | .backtickedIdentifier, opening => opening = ['`']
  | .multiLineComment, opening => opening = ['/', '*']
  | .singleLineComment, opening => opening = ['-', '-']
  | _, _ => False

-- What is wrong with a token that is opened and not closed. The end of a line or of the text closes a comment on a line.
def unclosed? : TokenKind → Option String
  | .string => some "unterminated quoted string"
  | .backtickedIdentifier => some "unterminated backtick"
  | .multiLineComment => some "eof found in middle of multi-line comment"
  | _ => none

-- The input starts with the text of a token of this kind, closed by its last characters or by the end of a line.
structure Closes (kind : TokenKind) (input : List Char) (text : String) (rest : List Char) : Prop where
  split : input = text.toList ++ rest
  spelled : kind.Spells text
  lineEnd : kind = .singleLineComment → BreaksLine rest

theorem Closes.of_spelled {kind : TokenKind} {input rest : List Char} {text : String} (notOnLine : kind ≠ .singleLineComment)
    (split : input = text.toList ++ rest) (spelled : kind.Spells text) : kind.Closes input text rest :=
  ⟨split, spelled, fun onLine => absurd onLine notOnLine⟩

theorem Opens.exists_head {kind : TokenKind} {opening : List Char} (opens : kind.Opens opening) :
    ∃ c rest, opening = c :: rest ∧ isBlank c = false ∧ c ≠ '.' ∧ c.isDigit = false := by
  cases kind with
  | string => rcases opens with rfl | rfl <;> exact ⟨_, [], rfl, by decide⟩
  | backtickedIdentifier => exact ⟨_, [], opens, by decide⟩
  | multiLineComment => exact ⟨_, ['*'], opens, by decide⟩
  | singleLineComment => exact ⟨_, ['-'], opens, by decide⟩
  | _ => contradiction

theorem Opens.pending {kind : TokenKind} {opening : List Char} (opens : kind.Opens opening) (body : List Char) :
    Pending (opening ++ body) := by
  obtain ⟨c, rest, rfl, visible, _⟩ := opens.exists_head
  exact first_holds c _ visible

theorem Opens.starts_afresh {kind : TokenKind} {opening : List Char} (opens : kind.Opens opening) (body : List Char) :
    StartsAfresh (opening ++ body) := by
  obtain ⟨c, rest, rfl, _, plain⟩ := opens.exists_head
  exact first_holds c _ plain

theorem Closes.reads {kind : TokenKind} {opening input rest : List Char} {text : String} (opens : kind.Opens opening)
    (closes : kind.Closes input text rest) : Lexeme.Reads input ⟨kind, text.toList, rest, .gap⟩ := by
  rw [closes.split]
  cases kind with
  | string => exact quoted_reads text rest closes.spelled
  | backtickedIdentifier => exact backticked_reads text rest closes.spelled
  | multiLineComment => exact block_comment_reads text rest closes.spelled
  | singleLineComment => exact line_comment_reads text rest closes.spelled (closes.lineEnd rfl)
  | _ => contradiction

end TokenKind

section Unclosed

variable (body : List Char)

theorem read_unclosed_string (quote : Char) (isQuote : quote = '"' ∨ quote = '\'')
    (unclosed : ∀ text rest, ¬ TokenKind.string.Closes (quote :: body) text rest) :
    Lexeme.read (quote :: body) = .error .unterminatedString := by
  have endless : Lexeme.quoteEnd? quote false body = none := by
    cases found : Lexeme.quoteEnd? quote false body with
    | none => rfl
    | some result =>
        obtain ⟨text, rest⟩ := result
        obtain ⟨notEscape, oneLine⟩ := quote_plain quote isQuote
        obtain ⟨units, areUnits, spelled⟩ := exists_units quote notEscape oneLine body text rest found
        have whole := Lexeme.quote_end_append quote false body text rest found
        have isQuoted : QuotedText (String.ofList (quote :: text)) :=
          ⟨quote, units, isQuote, areUnits, by rw [String.toList_ofList, spelled]⟩
        have split : quote :: body = (String.ofList (quote :: text)).toList ++ rest := by
          rw [String.toList_ofList, List.cons_append, whole]
        exact absurd (.of_spelled (by decide) split isQuoted) (unclosed _ rest)
  rcases isQuote with rfl | rfl <;> simp [Lexeme.read, punctuation?, Lexeme.quoted, endless]

theorem read_unclosed_backtick (unclosed : ∀ text rest, ¬ TokenKind.backtickedIdentifier.Closes ('`' :: body) text rest) :
    Lexeme.read ('`' :: body) = .error .unterminatedBacktick := by
  have opened : Lexeme.read ('`' :: body) = Lexeme.backticked body := by simp [Lexeme.read, punctuation?]
  rw [opened]
  cases outcome : Lexeme.backticked body with
  | ok lexeme =>
      obtain ⟨word, rest, rfl, members, _⟩ := (Lexeme.backticked_ok_iff body lexeme).mp outcome
      have spelled : Backticked (String.ofList ('`' :: word ++ ['`'])) := ⟨word, String.toList_ofList, members⟩
      have split : '`' :: (word ++ '`' :: rest) = (String.ofList ('`' :: word ++ ['`'])).toList ++ rest := by simp
      exact absurd (.of_spelled (by decide) split spelled) (unclosed _ rest)
  | error cause => rw [Lexeme.backticked_error body cause outcome]

theorem read_unclosed_comment (unclosed : ∀ text rest, ¬ TokenKind.multiLineComment.Closes ('/' :: '*' :: body) text rest) :
    Lexeme.read ('/' :: '*' :: body) = .error .unterminatedComment := by
  have endless : Lexeme.commentEnd? body = none := by
    cases found : Lexeme.commentEnd? body with
    | none => rfl
    | some result =>
        obtain ⟨text, rest⟩ := result
        obtain ⟨inner, ended, first⟩ := comment_end_first body text rest found
        have whole := Lexeme.comment_end_append body text rest found
        have spelled : BlockComment (String.ofList ('/' :: '*' :: text)) :=
          ⟨inner, by rw [String.toList_ofList, ended], first⟩
        have split : '/' :: '*' :: body = (String.ofList ('/' :: '*' :: text)).toList ++ rest := by
          rw [String.toList_ofList, List.cons_append, List.cons_append, whole]
        exact absurd (.of_spelled (by decide) split spelled) (unclosed _ rest)
  simp [Lexeme.read, Lexeme.blockComment, endless]

theorem line_comment_closes : ∃ text rest, TokenKind.singleLineComment.Closes ('-' :: '-' :: body) text rest := by
  have whole := List.takeWhile_append_dropWhile (p := fun c => !isNewline c) (l := body)
  have members : ∀ c ∈ body.takeWhile (fun c => !isNewline c), (!isNewline c) = true := List.all_eq_true.mp List.all_takeWhile
  have ends := drop_while_ends (fun c => !isNewline c) body
  refine ⟨String.ofList ('-' :: '-' :: body.takeWhile fun c => !isNewline c), body.dropWhile fun c => !isNewline c, ?_, ?_, ?_⟩
  · rw [String.toList_ofList, List.cons_append, List.cons_append, whole]
  · exact ⟨_, String.toList_ofList, by simpa using members⟩
  · exact fun _ c first => by simpa using ends c first

end Unclosed

section Anywhere

variable {kind : TokenKind} {opening : List Char} (opens : kind.Opens opening) (body : List Char)

include opens

theorem read_unclosed (unclosed : ∀ text rest, ¬ kind.Closes (opening ++ body) text rest) :
    ∃ cause, Lexeme.read (opening ++ body) = .error cause ∧ kind.unclosed? = some cause.message ∧
      (cause = .unterminatedComment ↔ kind = .multiLineComment) := by
  cases kind with
  | string =>
      rcases opens with rfl | rfl
      · exact ⟨_, read_unclosed_string body '"' (.inl rfl) unclosed, rfl, iff_of_false nofun nofun⟩
      · exact ⟨_, read_unclosed_string body '\'' (.inr rfl) unclosed, rfl, iff_of_false nofun nofun⟩
  | backtickedIdentifier =>
      subst opens
      exact ⟨_, read_unclosed_backtick body unclosed, rfl, iff_of_false nofun nofun⟩
  | multiLineComment =>
      subst opens
      exact ⟨_, read_unclosed_comment body unclosed, rfl, iff_of_true rfl rfl⟩
  | singleLineComment =>
      subst opens
      obtain ⟨text, rest, closes⟩ := line_comment_closes body
      exact absurd closes (unclosed text rest)
  | _ => contradiction

theorem tokens_from_closed (line : Nat) (text : String) (rest : List Char)
    (closes : kind.Closes (opening ++ body) text rest) :
    tokensFrom line (opening ++ body) =
      ⟨kind, text, line + newlines text.toList⟩ :: tokensFrom (line + newlines text.toList) rest :=
  tokens_from_lexeme line _ kind text rest (closes.reads opens)

theorem tokens_from_unclosed (line : Nat) (unclosed : ∀ text rest, ¬ kind.Closes (opening ++ body) text rest) :
    ∃ message ∈ kind.unclosed?, tokensFrom line (opening ++ body) =
      [⟨.error, message, if kind = .multiLineComment then line + newlines (opening ++ body) else line⟩] := by
  obtain ⟨cause, failed, complaint, comment⟩ := read_unclosed opens body unclosed
  refine ⟨cause.message, complaint, ?_⟩
  rw [tokens_from_failed line _ cause (opens.pending body) failed]
  simp only [Lexer.halt, comment]

end Anywhere

theorem tokens_afresh (line : Nat) (place : Place) (gap pending : List Char) (unfinished : place ≠ .finished)
    (blank : Blank gap) (afresh : StartsAfresh pending) :
    Lexer.tokens ⟨gap ++ pending, line, place⟩ = tokensFrom (line + newlines gap) pending := by
  by_cases empty : gap = []
  · subst empty
    cases place with
    | finished => contradiction
    | gap => rfl
    | chain => exact Lexer.tokens_of_chain line pending afresh
  · exact Lexer.tokens_of_blanks line place gap pending unfinished blank empty

theorem tokens_of_delimited (kind : TokenKind) (opening body gap : List Char) (line : Nat) (place : Place)
    (opens : kind.Opens opening) (blank : Blank gap) (unfinished : place ≠ .finished) :
    (∀ text rest, kind.Closes (opening ++ body) text rest →
      Lexer.tokens ⟨gap ++ (opening ++ body), line, place⟩ =
        ⟨kind, text, line + gap.count '\n' + text.toList.count '\n'⟩ ::
          tokensFrom (line + gap.count '\n' + text.toList.count '\n') rest) ∧
    ((∀ text rest, ¬ kind.Closes (opening ++ body) text rest) →
      ∃ message ∈ kind.unclosed?, Lexer.tokens ⟨gap ++ (opening ++ body), line, place⟩ =
        [⟨.error, message,
          if kind = .multiLineComment then line + gap.count '\n' + (opening ++ body).count '\n'
          else line + gap.count '\n'⟩]) ∧
    (kind = .singleLineComment → ∃ text rest, kind.Closes (opening ++ body) text rest) := by
  rw [tokens_afresh line place gap _ unfinished blank (opens.starts_afresh body)]
  refine ⟨?_, ?_, ?_⟩
  · exact tokens_from_closed opens body (line + gap.count '\n')
  · exact tokens_from_unclosed opens body (line + gap.count '\n')
  · rintro rfl
    obtain rfl : opening = ['-', '-'] := opens
    exact line_comment_closes body

theorem tokens_of_delimited_escapes :
    TokenKind.string.Opens ['\''] ∧ TokenKind.multiLineComment.Opens ['/', '*'] ∧ Blank ['\n'] ∧ Place.chain ≠ .finished ∧
      TokenKind.string.Closes (['\''] ++ "\\'\"' --".toList) "'\\'\"'" " --".toList ∧
      Lexer.tokens ⟨['\n'] ++ (['\''] ++ "\\'\"' --".toList), 1, .chain⟩ =
        ⟨.string, "'\\'\"'", 2⟩ :: tokensFrom 2 " --".toList ∧
      (∀ text rest, ¬ TokenKind.multiLineComment.Closes (['/', '*'] ++ "/\n".toList) text rest) ∧
      Lexer.tokens ⟨['\n'] ++ (['/', '*'] ++ "/\n".toList), 1, .chain⟩ =
        [⟨.error, "eof found in middle of multi-line comment", 3⟩] := by
  have blank : Blank ['\n'] := List.forall_mem_singleton.mpr rfl
  have opens : TokenKind.multiLineComment.Opens ['/', '*'] := rfl
  have closes : TokenKind.string.Closes (['\''] ++ "\\'\"' --".toList) "'\\'\"'" " --".toList :=
    .of_spelled (by decide) (by decide +kernel) (by decide +kernel)
  have unclosed : ∀ text rest, ¬ TokenKind.multiLineComment.Closes (['/', '*'] ++ "/\n".toList) text rest := by
    intro text rest closes
    have reads := Lexeme.read_of_reads _ _ (closes.reads opens)
    have failed : Lexeme.read (['/', '*'] ++ "/\n".toList) = .error .unterminatedComment := rfl
    rw [failed] at reads
    contradiction
  have text := tokens_of_delimited .string ['\''] "\\'\"' --".toList ['\n'] 1 .chain (.inr rfl) blank nofun
  have comment := tokens_of_delimited .multiLineComment ['/', '*'] "/\n".toList ['\n'] 1 .chain opens blank nofun
  obtain ⟨message, complaint, broken⟩ := comment.2.1 unclosed
  obtain rfl := Option.some.inj complaint
  exact ⟨.inr rfl, opens, blank, nofun, closes, text.1 _ _ closes, unclosed, broken⟩

end SqlOutline
