import SqlOutline.Proofs.Token.Numbers
import SqlOutline.Proofs.Token.Stream
import SqlOutline.Proofs.Token.Words

set_option autoImplicit false

namespace SqlOutline

def tokensFrom (line : Nat) (input : List Char) : List Token :=
  (⟨input, line, .gap⟩ : Lexer).tokens

-- A word is not longer and is not made part of a chain by what follows it.
def EndsWord (rest : List Char) : Prop :=
  ∀ c ∈ rest.head?, isWordChar c = false ∧ c ≠ '.'

def EndsOperator (rest : List Char) : Prop :=
  ∀ c ∈ rest.head?, isOperatorChar c = false

-- After a dot, what follows is read as it would be read without the dot.
def StartsAfresh (input : List Char) : Prop :=
  ∀ c ∈ input.head?, c ≠ '.' ∧ c.isDigit = false

theorem pending_of_reads (input : List Char) (lexeme : Lexeme) (reads : Lexeme.Reads input lexeme) : Pending input := by
  cases reads with
  | endOfInput => exact nofun
  | lineComment rest => exact first_holds '-' _ (by decide)
  | blockComment body text rest found => exact first_holds '/' _ (by decide)
  | punctuation c kind rest found =>
      have notBlank : isBlank c = false := by
        unfold punctuation? at found
        repeat' split at found
        all_goals first | contradiction | subst c; decide
      exact first_holds c rest notBlank
  | backticked word rest members => exact first_holds '`' _ (by decide)
  | quoted quote body text rest isQuote found =>
      have notBlank : isBlank quote = false := by rcases isQuote with rfl | rfl <;> decide
      exact first_holds quote body notBlank
  | operator c rest member noComment =>
      have plain : ∀ d ∈ operatorChars, isBlank d = false := forall_mem_of_all _ (by decide)
      exact first_holds c rest (plain c (List.contains_iff_mem.mp member))
  | number c rest text after digit found ends =>
      exact first_holds c rest (Lexeme.word_char_not_blank c (is_word_char_of_digit c digit))
  | word c rest member notDigit => exact first_holds c rest (Lexeme.word_char_not_blank c member)

theorem newlines_append (front back : List Char) : newlines (front ++ back) = newlines front + newlines back :=
  List.count_append

theorem newlines_of_members (holds : Char → Prop) (text : List Char) (members : ∀ c ∈ text, holds c)
    (outside : ¬ holds '\n') : newlines text = 0 :=
  List.count_eq_zero.mpr fun member => outside (members '\n' member)

theorem newlines_of_word (word : List Char) (members : ∀ c ∈ word, isWordChar c = true) : newlines word = 0 :=
  newlines_of_members _ word members (by decide)

namespace Lexer

theorem tokens_of_same_next (lexer other : Lexer) (same : lexer.next? = other.next?) : lexer.tokens = other.tokens := by
  cases step : other.next? with
  | none => rw [tokens_of_none lexer (same.trans step), tokens_of_none other step]
  | some result =>
      obtain ⟨token, following⟩ := result
      rw [tokens_of_some lexer following token (same.trans step), tokens_of_some other following token step]

theorem after_blanks_cons (line : Nat) (c : Char) (rest : List Char) (blank : isBlank c = true) :
    afterBlanks line (c :: rest) = afterBlanks (line + newlines [c]) rest := by
  have lines : line + newlines (c :: rest.takeWhile isBlank) =
      line + newlines [c] + newlines (rest.takeWhile isBlank) := by
    rw [Nat.add_assoc, ← newlines_append, List.singleton_append]
  simp only [afterBlanks, List.takeWhile_cons_of_pos blank, List.dropWhile_cons_of_pos blank, lines]

theorem after_blanks_reads (line : Nat) (input : List Char) (lexeme : Lexeme) (reads : Lexeme.Reads input lexeme) :
    afterBlanks line input = emit line lexeme := by
  have read := Lexeme.read_of_reads input lexeme reads
  have starts := pending_of_reads input lexeme reads
  cases input with
  | nil => simp [afterBlanks, read, newlines]
  | cons c rest => simp [afterBlanks, starts c rfl, read, newlines]

theorem tokens_of_chain (line : Nat) (input : List Char) (afresh : StartsAfresh input) :
    (⟨input, line, .chain⟩ : Lexer).tokens = tokensFrom line input := by
  apply tokens_of_same_next
  cases input with
  | nil => rfl
  | cons c rest =>
      obtain ⟨notDot, notDigit⟩ := afresh c rfl
      by_cases member : isWordChar c = true
      · simp only [next?, Lexeme.readDotted?, notDot, member, if_false, if_true]
        rw [after_blanks_reads line _ _ (.word c rest member notDigit)]
      · simp [next?, Lexeme.readDotted?, notDot, member]

end Lexer

theorem tokens_from_blank (line : Nat) (c : Char) (rest : List Char) (blank : isBlank c = true) :
    tokensFrom line (c :: rest) = tokensFrom (line + newlines [c]) rest := by
  apply Lexer.tokens_of_same_next
  simp only [Lexer.next?, Lexer.after_blanks_cons line c rest blank]

theorem tokens_from_space (line : Nat) (rest : List Char) : tokensFrom line (' ' :: rest) = tokensFrom line rest :=
  tokens_from_blank line ' ' rest rfl

theorem tokens_from_newline (line : Nat) (rest : List Char) :
    tokensFrom line ('\n' :: rest) = tokensFrom (line + 1) rest :=
  tokens_from_blank line '\n' rest rfl

theorem tokens_from_end (line : Nat) : tokensFrom line [] = [⟨.endOfInput, "", line⟩] := by
  rw [tokensFrom, Lexer.tokens_of_some ⟨[], line, .gap⟩ ⟨[], line, .finished⟩ ⟨.endOfInput, "", line⟩ rfl,
    Lexer.tokens_of_finished _ rfl]

theorem tokens_from_reads (line : Nat) (input : List Char) (lexeme : Lexeme) (reads : Lexeme.Reads input lexeme) :
    tokensFrom line input = (Lexer.emit line lexeme).1 :: (Lexer.emit line lexeme).2.tokens := by
  apply Lexer.tokens_of_some
  simp only [Lexer.next?, Lexer.after_blanks_reads line input lexeme reads]

theorem tokens_from_lexeme (line : Nat) (input : List Char) (kind : TokenKind) (text : String) (rest : List Char)
    (reads : Lexeme.Reads input ⟨kind, text.toList, rest, .gap⟩) :
    tokensFrom line input =
      ⟨kind, text, line + newlines text.toList⟩ :: tokensFrom (line + newlines text.toList) rest := by
  rw [tokens_from_reads line input _ reads]
  simp [Lexer.emit, tokensFrom]

theorem tokens_from_plain (line : Nat) (input : List Char) (kind : TokenKind) (text : String) (rest : List Char)
    (oneLine : newlines text.toList = 0) (reads : Lexeme.Reads input ⟨kind, text.toList, rest, .gap⟩) :
    tokensFrom line input = ⟨kind, text, line⟩ :: tokensFrom line rest := by
  rw [tokens_from_lexeme line input kind text rest reads, oneLine, Nat.add_zero]

theorem tokens_from_punctuation (line : Nat) (c : Char) (kind : TokenKind) (rest : List Char)
    (found : punctuation? c = some kind) :
    tokensFrom line (c :: rest) = ⟨kind, String.singleton c, line⟩ :: tokensFrom line rest := by
  have oneLine : newlines (String.singleton c).toList = 0 := by
    unfold punctuation? at found
    repeat' split at found
    all_goals first | contradiction | subst c; decide
  exact tokens_from_plain line _ kind _ rest oneLine (by simpa using Lexeme.Reads.punctuation c kind rest found)

theorem operator_reads (text : String) (rest : List Char) (operator : OperatorText text) (ends : EndsOperator rest) :
    Lexeme.Reads (text.toList ++ rest) ⟨.operator, text.toList, rest, .gap⟩ := by
  obtain ⟨front, back⟩ := Lexeme.take_while_members isOperatorChar text.toList rest operator.members ends
  have lexeme : Lexeme.run .operator isOperatorChar (text.toList ++ rest) = ⟨.operator, text.toList, rest, .gap⟩ := by
    rw [Lexeme.run, front, back]
  obtain ⟨c, tail, chars⟩ := List.exists_cons_of_ne_nil fun empty => operator.written (String.toList_eq_nil_iff.mp empty)
  rw [← lexeme, chars, List.cons_append]
  refine .operator c (tail ++ rest) (operator.members c (by simp [chars])) ?_
  -- The character after the first is in the text, or it is not an operator character.
  cases tail with
  | nil =>
      rintro (⟨_, second⟩ | ⟨_, second⟩) <;> exact absurd (ends _ second) (by decide)
  | cons d tail =>
      have noComment := operator.noComment
      rw [chars] at noComment
      rintro (⟨rfl, second⟩ | ⟨rfl, second⟩)
      · exact noComment.1 (by simp at second; simp [second])
      · exact noComment.2 (by simp at second; simp [second])

theorem tokens_from_operator (line : Nat) (text : String) (rest : List Char) (operator : OperatorText text)
    (ends : EndsOperator rest) :
    tokensFrom line (text.toList ++ rest) = ⟨.operator, text, line⟩ :: tokensFrom line rest :=
  have oneLine := newlines_of_members _ text.toList operator.members (by decide)
  tokens_from_plain line _ _ text rest oneLine (operator_reads text rest operator ends)

theorem backticked_reads (text : String) (rest : List Char) (isBackticked : Backticked text) :
    Lexeme.Reads (text.toList ++ rest) ⟨.backtickedIdentifier, text.toList, rest, .gap⟩ := by
  obtain ⟨word, chars, members⟩ := isBackticked
  rw [chars]
  simpa using Lexeme.Reads.backticked word rest members

theorem tokens_from_backticked (line : Nat) (text : String) (rest : List Char) (isBackticked : Backticked text) :
    tokensFrom line (text.toList ++ rest) = ⟨.backtickedIdentifier, text, line⟩ :: tokensFrom line rest := by
  have oneLine : newlines text.toList = 0 := by
    obtain ⟨word, chars, members⟩ := isBackticked
    rw [chars, newlines_append, ← List.singleton_append, newlines_append, newlines_of_word word members]
    rfl
  exact tokens_from_plain line _ _ text rest oneLine (backticked_reads text rest isBackticked)

theorem number_reads (text : String) (rest : List Char) (number : NumberText text) (ends : EndsDigits rest) :
    Lexeme.Reads (text.toList ++ rest) ⟨.number, text.toList, rest, .gap⟩ := by
  obtain ⟨_, continued⟩ := (number_text_iff text).mp number
  have found := NumberPart.split_of_continued .start text.toList rest continued ends
  obtain ⟨c, tail, chars, digit⟩ := number.exists_head
  rw [chars] at found ⊢
  exact .number c (tail ++ rest) _ rest digit found fun d first => (ends d first).1

theorem newlines_of_number (text : String) (number : NumberText text) : newlines text.toList = 0 := by
  obtain ⟨_, continued⟩ := (number_text_iff text).mp number
  exact newlines_of_members _ _ (NumberPart.members_of_continued .start text.toList continued) (by decide)

theorem tokens_from_number (line : Nat) (text : String) (rest : List Char) (number : NumberText text)
    (ends : EndsDigits rest) :
    tokensFrom line (text.toList ++ rest) = ⟨.number, text, line⟩ :: tokensFrom line rest :=
  tokens_from_plain line _ _ text rest (newlines_of_number text number) (number_reads text rest number ends)

section Words

variable {text : String}

theorem IsWord.ends_operator (isWord : IsWord text) (rest : List Char) : EndsOperator (text.toList ++ rest) := by
  obtain ⟨c, tail, chars, member, _⟩ := isWord.exists_head
  obtain ⟨-, -, -, -, -, notOperator⟩ := Lexeme.word_char_plain c member
  rw [chars]
  exact first_holds c _ (Bool.eq_false_iff.mpr notOperator)

theorem IsWord.reads (isWord : IsWord text) (rest : List Char) :
    Lexeme.Reads (text.toList ++ rest) (Lexeme.word (text.toList ++ rest)) := by
  obtain ⟨c, tail, chars, member, notDigit⟩ := isWord.exists_head
  rw [chars]
  exact .word c (tail ++ rest) member notDigit

theorem IsWord.reads_end (isWord : IsWord text) (rest : List Char) (ends : EndsWord rest) :
    Lexeme.Reads (text.toList ++ rest)
      ⟨if (Keyword.ofString? text).isSome then .keyword else .identifier, text.toList, rest, .gap⟩ := by
  obtain ⟨front, back⟩ := Lexeme.take_while_members isWordChar text.toList rest isWord.members fun c first => (ends c first).1
  have noDot : rest.head? ≠ some '.' := fun first => (ends '.' first).2 rfl
  have lexeme : Lexeme.word (text.toList ++ rest) =
      ⟨if (Keyword.ofString? text).isSome then .keyword else .identifier, text.toList, rest, .gap⟩ := by
    simp only [Lexeme.word, front, back, if_neg noDot, String.ofList_toList]
    split <;> rfl
  exact lexeme ▸ isWord.reads rest

theorem IsWord.reads_keyword (isWord : IsWord text) (rest : List Char) (spells : (Keyword.ofString? text).isSome = true)
    (ends : EndsWord rest) : Lexeme.Reads (text.toList ++ rest) ⟨.keyword, text.toList, rest, .gap⟩ := by
  have reads := isWord.reads_end rest ends
  rwa [spells] at reads

theorem BareWord.reads (bare : BareWord text) (rest : List Char) (ends : EndsWord rest) :
    Lexeme.Reads (text.toList ++ rest) ⟨.identifier, text.toList, rest, .gap⟩ := by
  have reads := bare.toIsWord.reads_end rest ends
  rwa [((bare_word_iff text).mp bare).2] at reads

theorem IsWord.tokens_dot (isWord : IsWord text) (line : Nat) (rest : List Char) (afresh : StartsAfresh rest) :
    tokensFrom line (text.toList ++ '.' :: rest) = ⟨.identifier, text, line⟩ :: ⟨.dot, ".", line⟩ :: tokensFrom line rest := by
  obtain ⟨front, back⟩ := Lexeme.take_while_members isWordChar text.toList ('.' :: rest) isWord.members
    (first_holds '.' rest (by decide))
  have lexeme : Lexeme.word (text.toList ++ '.' :: rest) = ⟨.identifier, text.toList, '.' :: rest, .chain⟩ := by
    simp only [Lexeme.word, front, back, List.head?_cons, if_true]
  have reads := isWord.reads ('.' :: rest)
  rw [lexeme] at reads
  rw [tokens_from_reads line _ _ reads]
  simp only [Lexer.emit, newlines_of_word _ isWord.members, Nat.add_zero, String.ofList_toList]
  rw [Lexer.tokens_of_some ⟨'.' :: rest, line, .chain⟩ ⟨rest, line, .chain⟩ ⟨.dot, ".", line⟩ rfl,
    Lexer.tokens_of_chain line rest afresh]

end Words

theorem tokens_from_keyword (line : Nat) (keyword : Keyword) (rest : List Char) (ends : EndsWord rest) :
    tokensFrom line (keyword.text.toList ++ rest) = ⟨.keyword, keyword.text, line⟩ :: tokensFrom line rest := by
  have isWord := keyword_is_word keyword
  have spells : (Keyword.ofString? keyword.text).isSome = true := by rw [Keyword.of_string_text, Option.isSome_some]
  exact tokens_from_plain line _ _ _ rest (newlines_of_word _ isWord.members) (isWord.reads_keyword rest spells ends)

theorem tokens_from_bare_word (line : Nat) (text : String) (rest : List Char) (bare : BareWord text)
    (ends : EndsWord rest) :
    tokensFrom line (text.toList ++ rest) = ⟨.identifier, text, line⟩ :: tokensFrom line rest :=
  tokens_from_plain line _ _ text rest (newlines_of_word _ bare.members) (bare.reads rest ends)

theorem tokens_from_name (line : Nat) (name : String) (isName : IsName name) :
    ∃ kind : TokenKind, kind.isName = true ∧ ∀ rest, EndsWord rest →
      tokensFrom line (name.toList ++ rest) = ⟨kind, name, line⟩ :: tokensFrom line rest := by
  rcases isName with bare | isBackticked
  · exact ⟨.identifier, rfl, fun rest => tokens_from_bare_word line name rest bare⟩
  · exact ⟨.backtickedIdentifier, rfl, fun rest _ => tokens_from_backticked line name rest isBackticked⟩

theorem tokens_from_qualifier (line : Nat) (name : String) (isName : IsName name) :
    ∃ kind : TokenKind, kind.isName = true ∧ ∀ rest, StartsAfresh rest →
      tokensFrom line (name.toList ++ '.' :: rest) = ⟨kind, name, line⟩ :: ⟨.dot, ".", line⟩ :: tokensFrom line rest := by
  rcases isName with bare | isBackticked
  · exact ⟨.identifier, rfl, bare.toIsWord.tokens_dot line⟩
  · refine ⟨.backtickedIdentifier, rfl, fun rest _ => ?_⟩
    rw [tokens_from_backticked line name _ isBackticked, tokens_from_punctuation line '.' .dot rest rfl]
    rfl

theorem name_starts_afresh (name : String) (rest : List Char) (isName : IsName name) :
    StartsAfresh (name.toList ++ rest) := by
  rcases isName with bare | ⟨word, chars, _⟩
  · obtain ⟨c, tail, chars, member, notDigit⟩ := bare.toIsWord.exists_head
    rw [chars]
    exact first_holds c _ ⟨Lexeme.word_char_ne c '.' member (by decide), notDigit⟩
  · rw [chars]
    exact first_holds '`' _ (by decide)

theorem line_comment_reads (text : String) (rest : List Char) (comment : LineComment text)
    (ends : ∀ c ∈ rest.head?, isNewline c = true) :
    Lexeme.Reads (text.toList ++ rest) ⟨.singleLineComment, text.toList, rest, .gap⟩ := by
  obtain ⟨body, chars, oneLine⟩ := comment
  have members : ∀ c ∈ '-' :: '-' :: body, (!isNewline c) = true := by
    have dash : isNewline '-' = false := by decide
    simpa [dash] using oneLine
  obtain ⟨front, back⟩ := Lexeme.take_while_members (fun c => !isNewline c) ('-' :: '-' :: body) rest members
    fun c first => by rw [ends c first]; rfl
  have lexeme : Lexeme.run .singleLineComment (fun c => !isNewline c) ('-' :: '-' :: (body ++ rest)) =
      ⟨.singleLineComment, '-' :: '-' :: body, rest, .gap⟩ := by
    rw [Lexeme.run, ← List.cons_append, ← List.cons_append, front, back]
  rw [chars]
  exact lexeme ▸ Lexeme.Reads.lineComment (body ++ rest)

theorem block_comment_reads (text : String) (rest : List Char) (comment : BlockComment text) :
    Lexeme.Reads (text.toList ++ rest) ⟨.multiLineComment, text.toList, rest, .gap⟩ := by
  obtain ⟨body, chars, unclosed⟩ := comment
  rw [chars]
  simpa using Lexeme.Reads.blockComment _ _ rest (comment_end_found body rest unclosed)

theorem tokens_from_comment (line : Nat) (text : String) (comment : CommentText text) :
    ∃ (kind : TokenKind) (after : Nat), kind.isComment = true ∧ ∀ rest,
      tokensFrom line (text.toList ++ '\n' :: rest) = ⟨kind, text, after⟩ :: tokensFrom (after + 1) rest := by
  rcases comment with comment | comment
  · refine ⟨.singleLineComment, line + newlines text.toList, rfl, fun rest => ?_⟩
    have reads := line_comment_reads text ('\n' :: rest) comment (first_holds '\n' rest rfl)
    rw [tokens_from_lexeme line _ _ text _ reads, tokens_from_newline]
  · refine ⟨.multiLineComment, line + newlines text.toList, rfl, fun rest => ?_⟩
    rw [tokens_from_lexeme line _ _ text _ (block_comment_reads text _ comment), tokens_from_newline]

theorem tokens_from_comments (line : Nat) (comments : List String) (areComments : ∀ text ∈ comments, CommentText text) :
    ∃ (front : List Token) (after : Nat), (∀ token ∈ front, token.kind.isComment = true) ∧
      front.map Token.text = comments ∧ ∀ rest,
        tokensFrom line ((String.join (comments.map (· ++ "\n"))).toList ++ rest) = front ++ tokensFrom after rest := by
  induction comments generalizing line with
  | nil => exact ⟨[], line, nofun, rfl, fun _ => rfl⟩
  | cons text comments ih =>
      obtain ⟨isComment, others⟩ := List.forall_mem_cons.mp areComments
      obtain ⟨kind, after, known, first⟩ := tokens_from_comment line text isComment
      obtain ⟨front, last, areKnown, texts, further⟩ := ih (after + 1) others
      refine ⟨⟨kind, text, after⟩ :: front, last, List.forall_mem_cons.mpr ⟨known, areKnown⟩, ?_, fun rest => ?_⟩
      · rw [List.map_cons, texts]
      · have chars : (String.join ((text :: comments).map (· ++ "\n"))).toList ++ rest =
            text.toList ++ '\n' :: ((String.join (comments.map (· ++ "\n"))).toList ++ rest) := by
          simp [String.toList_append]
        rw [chars, first, further]
        rfl

end SqlOutline
