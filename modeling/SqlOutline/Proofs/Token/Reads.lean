import SqlOutline.Proofs.Sequence
import SqlOutline.Token.Reading

set_option autoImplicit false

namespace SqlOutline.Lexeme

theorem number_of_word_char (input rest : List Char) (c : Char)
    (stopped : (NumberPart.start.split input).2 = c :: rest) (member : isWordChar c = true) :
    number input = .error (.badNumber (String.ofList ((NumberPart.start.split input).1 ++ [c]))) := by
  simp only [number, stopped, List.head?_cons, if_pos member]

theorem word_char_ne (c d : Char) (member : isWordChar c = true) (outside : isWordChar d = false) : c ≠ d := by
  rintro rfl
  rw [member] at outside
  contradiction

theorem word_char_not_blank (c : Char) (member : isWordChar c = true) : isBlank c = false := by
  simp [isBlank, isNewline, word_char_ne c ' ' member (by decide), word_char_ne c '\t' member (by decide),
    word_char_ne c '\r' member (by decide), word_char_ne c '\n' member (by decide)]

theorem word_char_plain (c : Char) (member : isWordChar c = true) :
    c ≠ '-' ∧ c ≠ '/' ∧ punctuation? c = none ∧ c ≠ '`' ∧ ¬ (c = '"' ∨ c = '\'') ∧ ¬ isOperatorChar c = true := by
  have different (d : Char) (outside : isWordChar d = false) : c ≠ d := word_char_ne c d member outside
  refine ⟨different _ (by decide), different _ (by decide), ?_, different _ (by decide), ?_, ?_⟩
  · simp [punctuation?, different '(' (by decide), different ')' (by decide), different ',' (by decide),
      different ';' (by decide), different '.' (by decide)]
  · exact not_or.mpr ⟨different _ (by decide), different _ (by decide)⟩
  · intro operator
    have outside : ∀ d ∈ operatorChars, isWordChar d = false := forall_mem_of_all _ (by decide)
    exact different c (outside c (List.contains_iff_mem.mp operator)) rfl

theorem operator_char_plain (c : Char) (member : isOperatorChar c = true) :
    punctuation? c = none ∧ c ≠ '`' ∧ ¬ (c = '"' ∨ c = '\'') := by
  have plain : ∀ d ∈ operatorChars, punctuation? d = none ∧ d ≠ '`' ∧ ¬ (d = '"' ∨ d = '\'') :=
    forall_mem_of_all _ (by decide)
  exact plain c (List.contains_iff_mem.mp member)

theorem read_of_digit (c : Char) (rest : List Char) (digit : c.isDigit = true) : read (c :: rest) = number (c :: rest) := by
  obtain ⟨notDash, notSlash, noMark, notTick, notQuote, notOperator⟩ :=
    word_char_plain c (is_word_char_of_digit c digit)
  simp [read, notDash, notSlash, noMark, notTick, notQuote, notOperator, digit]

theorem read_of_reads (input : List Char) (lexeme : Lexeme) (reads : Reads input lexeme) : read input = .ok lexeme := by
  cases reads with
  | endOfInput => rfl
  | lineComment rest => rfl
  | blockComment body text rest found => simp [read, blockComment, found]
  | punctuation c kind rest found =>
      have notLine : ¬ (c = '-' ∧ rest.head? = some '-') := by
        rintro ⟨rfl, _⟩
        contradiction
      have notBlock : ¬ (c = '/' ∧ rest.head? = some '*') := by
        rintro ⟨rfl, _⟩
        contradiction
      simp only [read, if_neg notLine, if_neg notBlock, found]
  | backticked word rest members =>
      have accepted := (backticked_ok_iff (word ++ '`' :: rest) _).mpr ⟨word, rest, rfl, members, rfl⟩
      simpa [read, punctuation?] using accepted
  | quoted quote body text rest isQuote found =>
      rcases isQuote with rfl | rfl <;> simp [read, punctuation?, quoted, found]
  | operator c rest member noComment =>
      obtain ⟨notLine, notBlock⟩ := not_or.mp noComment
      obtain ⟨noMark, notTick, notQuote⟩ := operator_char_plain c member
      simp only [read, if_neg notLine, if_neg notBlock, noMark, if_neg notTick, if_neg notQuote, if_pos member]
  | number c rest text after digit found ends =>
      have accepted := (number_ok_iff (c :: rest) ⟨.number, text, after, .gap⟩).mpr
      rw [found] at accepted
      rw [read_of_digit c rest digit]
      exact accepted ⟨ends, rfl⟩
  | word c rest member notDigit =>
      obtain ⟨notDash, notSlash, noMark, notTick, notQuote, notOperator⟩ := word_char_plain c member
      simp [read, notDash, notSlash, noMark, notTick, notQuote, notOperator, notDigit, member]

inductive Refuses : List Char → LexError → Prop where
  | comment (body : List Char) (endless : commentEnd? body = none) : Refuses ('/' :: '*' :: body) .unterminatedComment
  | string (quote : Char) (body : List Char) (isQuote : quote = '"' ∨ quote = '\'')
      (endless : quoteEnd? quote false body = none) : Refuses (quote :: body) .unterminatedString
  | backtick (body : List Char) : Refuses ('`' :: body) .unterminatedBacktick
  | number (c d : Char) (rest text after : List Char) (digit : c.isDigit = true)
      (found : NumberPart.start.split (c :: rest) = (text, d :: after)) (member : isWordChar d = true) :
      Refuses (c :: rest) (.badNumber (String.ofList (text ++ [d])))
  | character (c : Char) (rest : List Char) (noMark : punctuation? c = none) (noTick : c ≠ '`')
      (noQuote : ¬ (c = '"' ∨ c = '\'')) (noOperator : isOperatorChar c = false) (noWord : isWordChar c = false) :
      Refuses (c :: rest) (.unrecognized c)

theorem backticked_error (body : List Char) (cause : LexError) (failed : backticked body = .error cause) :
    cause = .unterminatedBacktick := by
  simp only [backticked] at failed
  split at failed
  · exact (Except.error.inj failed).symm
  · split at failed
    · contradiction
    · exact (Except.error.inj failed).symm

theorem number_error (input : List Char) (cause : LexError) (failed : number input = .error cause) :
    ∃ d after, (NumberPart.start.split input).2 = d :: after ∧ isWordChar d = true ∧
      cause = .badNumber (String.ofList ((NumberPart.start.split input).1 ++ [d])) := by
  cases stopped : (NumberPart.start.split input).2 with
  | nil => simp [number, stopped] at failed
  | cons d after =>
      by_cases member : isWordChar d = true
      · rw [number_of_word_char input after d stopped member] at failed
        exact ⟨d, after, rfl, member, (Except.error.inj failed).symm⟩
      · simp [number, stopped, member] at failed

theorem refuses_of_read (input : List Char) (cause : LexError) (failed : read input = .error cause) :
    Refuses input cause := by
  cases input with
  | nil => contradiction
  | cons c rest =>
      simp only [read] at failed
      split at failed
      · contradiction
      · split at failed
        · rename_i opening
          obtain ⟨rfl, second⟩ := opening
          simp only [blockComment] at failed
          split at failed
          · rename_i endless
            cases rest with
            | nil => contradiction
            | cons d body =>
                cases (Option.some.inj second : d = '*')
                cases failed
                exact .comment body endless
          · contradiction
        · split at failed
          · contradiction
          · rename_i noMark
            split at failed
            · rename_i tick
              rw [tick, backticked_error rest cause failed]
              exact .backtick rest
            · rename_i noTick
              split at failed
              · rename_i isQuote
                simp only [quoted] at failed
                split at failed
                · rename_i endless
                  cases failed
                  exact .string c rest isQuote endless
                · contradiction
              · rename_i noQuote
                split at failed
                · contradiction
                · rename_i noOperator
                  split at failed
                  · rename_i digit
                    obtain ⟨d, after, stopped, member, rfl⟩ := number_error (c :: rest) cause failed
                    exact .number c d rest _ after digit (Prod.ext rfl stopped) member
                  · split at failed
                    · contradiction
                    · rename_i noWord
                      cases failed
                      exact .character c rest noMark noTick noQuote (Bool.eq_false_iff.mpr noOperator)
                        (Bool.eq_false_iff.mpr noWord)

end SqlOutline.Lexeme
