import SqlOutline.Proofs.Text.Capitals
import SqlOutline.Proofs.Token.Advance
import SqlOutline.Proofs.Token.Respelling

set_option autoImplicit false

namespace SqlOutline

theorem is_newline_to_upper (c : Char) : isNewline c.toUpper = isNewline c :=
  capital_same isNewline (by decide) c

theorem is_blank_to_upper (c : Char) : isBlank c.toUpper = isBlank c :=
  capital_same isBlank (by decide) c

theorem is_operator_char_to_upper (c : Char) : isOperatorChar c.toUpper = isOperatorChar c :=
  capital_same isOperatorChar (by decide) c

theorem punctuation_to_upper (c : Char) : punctuation? c.toUpper = punctuation? c :=
  capital_same punctuation? (by decide) c

theorem next_to_upper (part : NumberPart) (c : Char) : part.next? c.toUpper = part.next? c := by
  refine capital_same part.next? ?_ c
  cases part <;> decide

theorem to_upper_of_blank (c : Char) (blank : isBlank c = true) : c.toUpper = c :=
  capital_cases (fun c d => isBlank c = true → d = c) (fun _ _ => rfl) (by decide) c blank

theorem newlines_capitals (text : List Char) : newlines (capitals text) = newlines text := by
  have same : (fun c => c == '\n') ∘ Char.toUpper = fun c => c == '\n' := funext (capital_same (· == '\n') (by decide))
  rw [newlines, newlines, List.count_eq_countP, List.count_eq_countP, capitals, List.countP_map, same]

def Respelling.inCapitals : Respelling where
  text := upperCase
  line := id
  append := upper_case_append
  again := upper_case_upper_case
  folded := fold_upper_case
  capitals := upper_case_upper_case

namespace LexError

def inCapitals : LexError → LexError
  | .unrecognized c => .unrecognized c.toUpper
  | .badNumber text => .badNumber (upperCase text)
  | cause => cause

theorem message_in_capitals (cause : LexError) : upperCase cause.inCapitals.message = upperCase cause.message := by
  cases cause with
  | unrecognized c =>
      have quoted : upperCase (quotedChar c.toUpper) = upperCase (quotedChar c) := quoted_by_capitals '\'' [c] (.inr rfl)
      show upperCase ("unrecognized character: " ++ quotedChar c.toUpper) = upperCase ("unrecognized character: " ++ quotedChar c)
      rw [upper_case_append, upper_case_append, quoted]
  | badNumber text =>
      have quoted : upperCase (quotedText (upperCase text)) = upperCase (quotedText text) := by
        rw [quotedText, quotedText, to_list_upper_case]
        exact quoted_by_capitals '"' text.toList (.inl rfl)
      show upperCase ("bad number syntax: " ++ quotedText (upperCase text)) = upperCase ("bad number syntax: " ++ quotedText text)
      rw [upper_case_append, upper_case_append, quoted]
  | unterminatedComment => rfl
  | unterminatedString => rfl
  | unterminatedBacktick => rfl

end LexError

namespace Lexeme

def inCapitals (lexeme : Lexeme) : Lexeme :=
  { lexeme with text := capitals lexeme.text, rest := capitals lexeme.rest }

def outcomeInCapitals : Except LexError Lexeme → Except LexError Lexeme
  | .ok lexeme => .ok lexeme.inCapitals
  | .error cause => .error cause.inCapitals

theorem run_capitals (kind : TokenKind) (member : Char → Bool) (same : ∀ c, member c.toUpper = member c)
    (input : List Char) : run kind member (capitals input) = (run kind member input).inCapitals := by
  simp only [run, inCapitals, take_while_capitals member same, drop_while_capitals member same]

theorem comment_end_capitals (input : List Char) :
    commentEnd? (capitals input) = (commentEnd? input).map (Prod.map capitals capitals) := by
  induction input with
  | nil => rfl
  | cons c rest ih =>
      have closing : (c.toUpper = '*' ∧ (capitals rest).head? = some '/') ↔ (c = '*' ∧ rest.head? = some '/') :=
        and_congr (to_upper_eq_iff c '*' rfl) (head_capitals rest '/' rfl)
      rw [capitals_cons, commentEnd?, commentEnd?]
      simp only [closing]
      split
      · rw [capitals, ← List.map_tail]
        rfl
      · rw [ih, Option.map_map, Option.map_map]
        rfl

theorem quote_end_capitals (quote : Char) (plain : quote.isAlpha = false) (escaped : Bool) (input : List Char) :
    quoteEnd? quote escaped (capitals input) = (quoteEnd? quote escaped input).map (Prod.map capitals capitals) := by
  induction input generalizing escaped with
  | nil => rfl
  | cons c rest ih =>
      have isSymbol (symbol : Char) (plain : symbol.isAlpha = false) : (c.toUpper == symbol) = (c == symbol) := by
        rw [Bool.eq_iff_iff, beq_iff_eq, beq_iff_eq]
        exact to_upper_eq_iff c symbol plain
      rw [capitals_cons, quoteEnd?, quoteEnd?, is_newline_to_upper, isSymbol quote plain, isSymbol '\\' rfl]
      split
      · rfl
      · split
        · rfl
        · rw [ih, Option.map_map, Option.map_map]
          rfl

theorem split_capitals (part : NumberPart) (input : List Char) :
    part.split (capitals input) = Prod.map capitals capitals (part.split input) := by
  induction input generalizing part with
  | nil => rfl
  | cons c rest ih =>
      rw [capitals_cons, NumberPart.split, NumberPart.split, next_to_upper]
      cases part.next? c with
      | none => rfl
      | some following =>
          simp only [ih following, Prod.map]
          rfl

theorem word_capitals (input : List Char) : word (capitals input) = (word input).inCapitals := by
  simp only [word, take_while_capitals isWordChar is_word_char_to_upper, drop_while_capitals isWordChar is_word_char_to_upper,
    head_capitals _ '.' rfl, ← upper_case_of_list]
  rw [show Keyword.ofString? (upperCase _) = _ from Respelling.inCapitals.keyword _]
  split
  · rfl
  · split <;> rfl

theorem number_capitals (input : List Char) : number (capitals input) = outcomeInCapitals (number input) := by
  simp only [number, split_capitals, Prod.map]
  cases after : (NumberPart.start.split input).2 with
  | nil => rfl
  | cons c rest =>
      simp only [capitals_cons, List.head?_cons, is_word_char_to_upper]
      split
      · simp only [outcomeInCapitals, LexError.inCapitals, upper_case_of_list, capitals, List.map_append]
        rfl
      · rfl

theorem block_comment_capitals (body : List Char) : blockComment (capitals body) = outcomeInCapitals (blockComment body) := by
  simp only [blockComment, comment_end_capitals]
  cases commentEnd? body <;> rfl

theorem quoted_capitals (quote : Char) (plain : quote.isAlpha = false) (body : List Char) :
    quoted quote (capitals body) = outcomeInCapitals (quoted quote body) := by
  have unchanged : quote.toUpper = quote := (to_upper_eq_iff quote quote plain).mpr rfl
  simp only [quoted, quote_end_capitals quote plain]
  cases quoteEnd? quote false body with
  | none => rfl
  | some result => simp only [Option.map_some, Prod.map, outcomeInCapitals, inCapitals, capitals_cons, unchanged]

theorem backticked_capitals (body : List Char) : backticked (capitals body) = outcomeInCapitals (backticked body) := by
  simp only [backticked, take_while_capitals isWordChar is_word_char_to_upper,
    drop_while_capitals isWordChar is_word_char_to_upper]
  cases body.dropWhile isWordChar with
  | nil => rfl
  | cons c rest =>
      simp only [capitals_cons, to_upper_eq_iff c '`' rfl]
      split
      · simp only [outcomeInCapitals, inCapitals, capitals_append, capitals_cons]
        rfl
      · rfl

theorem read_capitals (input : List Char) : read (capitals input) = outcomeInCapitals (read input) := by
  cases input with
  | nil => rfl
  | cons c rest =>
      rw [capitals_cons]
      simp (disch := decide) only [read, to_upper_eq_iff, head_capitals, punctuation_to_upper, is_operator_char_to_upper,
        is_digit_to_upper, is_word_char_to_upper]
      rw [← capitals_cons]
      split
      · exact congrArg Except.ok (run_capitals _ _ (fun d => congrArg not (is_newline_to_upper d)) _)
      · split
        · rw [show (capitals rest).tail = capitals rest.tail from List.map_tail.symm]
          exact block_comment_capitals rest.tail
        · split
          · rfl
          · split
            · exact backticked_capitals rest
            · split
              · rename_i isQuote
                rcases isQuote with rfl | rfl
                · exact quoted_capitals '"' rfl rest
                · exact quoted_capitals '\'' rfl rest
              · split
                · exact congrArg Except.ok (run_capitals _ _ is_operator_char_to_upper _)
                · split
                  · exact number_capitals (c :: rest)
                  · split
                    · exact congrArg Except.ok (word_capitals (c :: rest))
                    · rfl

theorem read_dotted_capitals (input : List Char) : readDotted? (capitals input) = (readDotted? input).map inCapitals := by
  cases input with
  | nil => rfl
  | cons c rest =>
      rw [capitals_cons]
      simp only [readDotted?, to_upper_eq_iff c '.' rfl, is_word_char_to_upper]
      rw [← capitals_cons, word_capitals]
      split
      · rfl
      · split <;> rfl

theorem read_at_capitals (place : Place) (input : List Char) :
    readAt place (capitals input) = outcomeInCapitals (readAt place input) := by
  cases place with
  | gap => exact read_capitals input
  | finished => exact read_capitals input
  | chain =>
      simp only [readAt, read_dotted_capitals, read_capitals]
      cases readDotted? input <;> rfl

end Lexeme

namespace Lexer

theorem capitals_of_blank (gap : List Char) (blank : Blank gap) : capitals gap = gap := by
  rw [capitals, List.map_congr_left fun c member => to_upper_of_blank c (blank c member), List.map_id']

theorem Takes.in_capitals {place : Place} {gap : List Char} {lexeme : Lexeme} (takes : Takes place gap lexeme) :
    Takes place gap lexeme.inCapitals where
  unfinished := takes.unfinished
  blank := takes.blank
  accepted := by
    have read := Lexeme.read_at_capitals (place.after gap) (lexeme.text ++ lexeme.rest)
    rw [takes.accepted, capitals_append] at read
    exact read
  isToken := ⟨takes.isToken.readable, takes.isToken.inside, takes.isToken.unfinished,
    fun empty => takes.isToken.written (List.map_eq_nil_iff.mp empty)⟩

theorem Fails.in_capitals {place : Place} {gap tail : List Char} {cause : LexError} (fails : Fails place gap tail cause) :
    Fails place gap (capitals tail) cause.inCapitals where
  unfinished := fails.unfinished
  blank := fails.blank
  starts := by
    intro c first
    rw [capitals, List.head?_map] at first
    obtain ⟨d, head, rfl⟩ := Option.map_eq_some_iff.mp first
    rw [is_blank_to_upper]
    exact fails.starts d head
  failed := by
    rw [Lexeme.read_at_capitals, fails.failed]
    rfl

theorem halt_in_capitals (line : Nat) (tail : List Char) (cause : LexError) :
    (halt line tail cause).1.Respells .inCapitals (halt line (capitals tail) cause.inCapitals).1 := by
  have unclosed : cause.inCapitals = .unterminatedComment ↔ cause = .unterminatedComment := by
    cases cause <;> simp [LexError.inCapitals]
  refine ⟨rfl, fun readable => absurd rfl readable, LexError.message_in_capitals cause, ?_⟩
  simp only [halt, unclosed, newlines_capitals]

theorem tokens_in_capitals (lexer : Lexer) :
    List.Forall₂ (Token.Respells .inCapitals) lexer.tokens (tokens ⟨capitals lexer.rest, lexer.line, lexer.place⟩) := by
  induction lexer using advance_induction with
  | finished lexer finished =>
      rw [tokens_of_finished lexer finished, tokens_of_finished ⟨capitals lexer.rest, lexer.line, lexer.place⟩ finished]
      exact .nil
  | taken gap lexeme line place takes ih =>
      have whole : capitals (gap ++ (lexeme.text ++ lexeme.rest)) = gap ++ (capitals lexeme.text ++ capitals lexeme.rest) := by
        rw [capitals_append, capitals_append, capitals_of_blank gap takes.blank]
      have other := tokens_of_takes line takes.in_capitals
      rw [tokens_of_takes line takes, whole]
      simp only [Lexeme.inCapitals, newlines_capitals] at other
      rw [other]
      have text : String.ofList (capitals lexeme.text) = upperCase (String.ofList lexeme.text) := (upper_case_of_list _).symm
      exact .cons ⟨rfl, fun _ => text, (congrArg upperCase text).trans (upper_case_upper_case _), rfl⟩ ih
  | ended gap line place unfinished blank =>
      simp only [capitals_of_blank gap blank]
      rw [tokens_of_end line unfinished blank]
      exact .cons ⟨rfl, fun _ => Respelling.inCapitals.empty.symm, rfl, rfl⟩ .nil
  | failed gap tail line place cause fails =>
      have whole : capitals (gap ++ tail) = gap ++ capitals tail := by
        rw [capitals_append, capitals_of_blank gap fails.blank]
      rw [tokens_of_fails line fails, whole, tokens_of_fails line fails.in_capitals]
      exact .cons (halt_in_capitals _ tail cause) .nil

end Lexer

end SqlOutline
