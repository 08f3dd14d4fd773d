import SqlOutline.Token.Lexeme

set_option autoImplicit false

namespace SqlOutline.Lexeme

def StartsComment (c : Char) (rest : List Char) : Prop :=
  (c = '-' ∧ rest.head? = some '-') ∨ (c = '/' ∧ rest.head? = some '*')

def EndsNumber (rest : List Char) : Prop :=
  ∀ c ∈ rest.head?, isWordChar c = false

inductive Reads : List Char → Lexeme → Prop where
  | endOfInput : Reads [] ⟨.endOfInput, [], [], .finished⟩
  | lineComment (rest : List Char) :
      Reads ('-' :: '-' :: rest) (run .singleLineComment (fun c => !isNewline c) ('-' :: '-' :: rest))
  | blockComment (body text rest : List Char) (found : commentEnd? body = some (text, rest)) :
      Reads ('/' :: '*' :: body) ⟨.multiLineComment, '/' :: '*' :: text, rest, .gap⟩
  | punctuation (c : Char) (kind : TokenKind) (rest : List Char) (found : punctuation? c = some kind) :
      Reads (c :: rest) ⟨kind, [c], rest, .gap⟩
  | backticked (word rest : List Char) (members : ∀ c ∈ word, isWordChar c = true) :
      Reads ('`' :: (word ++ '`' :: rest)) ⟨.backtickedIdentifier, '`' :: word ++ ['`'], rest, .gap⟩
  | quoted (quote : Char) (body text rest : List Char) (isQuote : quote = '"' ∨ quote = '\'')
      (found : quoteEnd? quote false body = some (text, rest)) :
      Reads (quote :: body) ⟨.string, quote :: text, rest, .gap⟩
  | operator (c : Char) (rest : List Char) (member : isOperatorChar c = true) (noComment : ¬ StartsComment c rest) :
      Reads (c :: rest) (run .operator isOperatorChar (c :: rest))
  | number (c : Char) (rest text after : List Char) (digit : c.isDigit = true)
      (found : NumberPart.start.split (c :: rest) = (text, after)) (ends : EndsNumber after) :
      Reads (c :: rest) ⟨.number, text, after, .gap⟩
  | word (c : Char) (rest : List Char) (member : isWordChar c = true) (notDigit : c.isDigit = false) :
      Reads (c :: rest) (word (c :: rest))

theorem take_while_members (member : Char → Bool) (members rest : List Char) (all : ∀ c ∈ members, member c = true)
    (ends : ∀ c ∈ rest.head?, member c = false) :
    (members ++ rest).takeWhile member = members ∧ (members ++ rest).dropWhile member = rest := by
  rw [List.takeWhile_append_of_pos all, List.dropWhile_append_of_pos all]
  cases rest with
  | nil => simp
  | cons c rest => simp [ends c rfl]

theorem number_ok_iff (input : List Char) (lexeme : Lexeme) :
    number input = .ok lexeme ↔
      EndsNumber (NumberPart.start.split input).2 ∧
      lexeme = ⟨.number, (NumberPart.start.split input).1, (NumberPart.start.split input).2, .gap⟩ := by
  simp only [number, EndsNumber]
  cases after : (NumberPart.start.split input).2 with
  | nil =>
      constructor
      · intro accepted
        refine ⟨?_, (Except.ok.inj accepted).symm⟩
        intro c first
        contradiction
      · rintro ⟨_, same⟩
        exact congrArg Except.ok same.symm
  | cons c rest =>
      cases member : isWordChar c with
      | true => simp [member]
      | false =>
          simp only [List.head?_cons, member]
          constructor
          · intro accepted
            exact ⟨fun _ same => Option.some.inj same ▸ member, (Except.ok.inj accepted).symm⟩
          · rintro ⟨_, same⟩
            exact congrArg Except.ok same.symm

theorem backticked_ok_iff (body : List Char) (lexeme : Lexeme) :
    backticked body = .ok lexeme ↔
      ∃ word rest, body = word ++ '`' :: rest ∧ (∀ c ∈ word, isWordChar c = true) ∧
        lexeme = ⟨.backtickedIdentifier, '`' :: word ++ ['`'], rest, .gap⟩ := by
  constructor
  · intro accepted
    simp only [backticked] at accepted
    split at accepted
    · contradiction
    · rename_i c rest after
      split at accepted
      · rename_i closing
        subst closing
        have whole := List.takeWhile_append_dropWhile (p := isWordChar) (l := body)
        rw [after] at whole
        exact ⟨_, rest, whole.symm, List.all_eq_true.mp List.all_takeWhile, (Except.ok.inj accepted).symm⟩
      · contradiction
  · rintro ⟨word, rest, rfl, members, rfl⟩
    have ends : ∀ c ∈ ('`' :: rest).head?, isWordChar c = false := by
      rintro _ ⟨⟩
      decide
    obtain ⟨front, back⟩ := take_while_members isWordChar word ('`' :: rest) members ends
    simp [backticked, front, back]

theorem reads_of_read (input : List Char) (lexeme : Lexeme) (accepted : read input = .ok lexeme) :
    Reads input lexeme := by
  cases input with
  | nil =>
      cases accepted
      exact .endOfInput
  | cons c rest =>
      simp only [read] at accepted
      split at accepted
      · rename_i opening
        obtain ⟨rfl, second⟩ := opening
        cases rest with
        | nil => contradiction
        | cons d rest =>
            cases (Option.some.inj second : d = '-')
            cases accepted
            exact .lineComment rest
      · rename_i notLine
        split at accepted
        · rename_i opening
          obtain ⟨rfl, second⟩ := opening
          simp only [blockComment] at accepted
          split at accepted
          · contradiction
          · rename_i text after found
            cases rest with
            | nil => contradiction
            | cons d body =>
                cases (Option.some.inj second : d = '*')
                cases accepted
                exact .blockComment body text after found
        · rename_i notBlock
          split at accepted
          · rename_i kind found
            cases accepted
            exact .punctuation c kind rest found
          · split at accepted
            · rename_i tick
              obtain ⟨word, after, rfl, members, rfl⟩ := (backticked_ok_iff rest lexeme).mp accepted
              subst tick
              exact .backticked word after members
            · split at accepted
              · rename_i isQuote
                simp only [quoted] at accepted
                split at accepted
                · contradiction
                · rename_i text after found
                  cases accepted
                  exact .quoted c rest text after isQuote found
              · split at accepted
                · rename_i member
                  cases accepted
                  exact .operator c rest member (not_or.mpr ⟨notLine, notBlock⟩)
                · split at accepted
                  · rename_i digit
                    obtain ⟨ends, rfl⟩ := (number_ok_iff _ lexeme).mp accepted
                    exact .number c rest _ _ digit rfl ends
                  · rename_i notDigit
                    split at accepted
                    · rename_i member
                      cases accepted
                      exact .word c rest member (Bool.eq_false_iff.mpr notDigit)
                    · contradiction

theorem read_dotted_iff (input : List Char) (lexeme : Lexeme) :
    readDotted? input = some lexeme ↔
      (∃ rest, input = '.' :: rest ∧ lexeme = ⟨.dot, ['.'], rest, .chain⟩) ∨
        ∃ c rest, input = c :: rest ∧ isWordChar c = true ∧ lexeme = word (c :: rest) := by
  constructor
  · intro found
    cases input with
    | nil => contradiction
    | cons c rest =>
        simp only [readDotted?] at found
        split at found
        · rename_i dot
          subst dot
          exact .inl ⟨rest, rfl, (Option.some.inj found).symm⟩
        · split at found
          · rename_i member
            exact .inr ⟨c, rest, rfl, member, (Option.some.inj found).symm⟩
          · contradiction
  · rintro (⟨rest, rfl, rfl⟩ | ⟨c, rest, rfl, member, rfl⟩)
    · rfl
    · have notDot : c ≠ '.' := by
        rintro rfl
        revert member
        decide
      simp only [readDotted?, if_neg notDot, member, if_true]

structure IsToken (lexeme : Lexeme) : Prop where
  readable : lexeme.kind ≠ .error
  inside : lexeme.kind ≠ .endOfInput
  unfinished : lexeme.next ≠ .finished
  written : lexeme.text ≠ []

theorem word_is_token (c : Char) (rest : List Char) (member : isWordChar c = true) : (word (c :: rest)).IsToken := by
  have written : (word (c :: rest)).text ≠ [] := by
    rw [word_text]
    exact take_while_ne_nil isWordChar c rest member
  revert written
  simp only [word]
  split
  · intro written
    exact ⟨by simp, by simp, by simp, written⟩
  · split
    · intro written
      exact ⟨by simp, by simp, by simp, written⟩
    · intro written
      exact ⟨by simp, by simp, by simp, written⟩

theorem punctuation_kind (c : Char) (kind : TokenKind) (found : punctuation? c = some kind) :
    kind ≠ .error ∧ kind ≠ .endOfInput := by
  unfold punctuation? at found
  repeat' split at found
  all_goals cases found
  all_goals exact ⟨nofun, nofun⟩

theorem reads_token (input : List Char) (lexeme : Lexeme) (reads : Reads input lexeme) :
    lexeme.IsToken ∨ input = [] ∧ lexeme = ⟨.endOfInput, [], [], .finished⟩ := by
  cases reads with
  | endOfInput => exact .inr ⟨rfl, rfl⟩
  | lineComment rest => exact .inl ⟨nofun, nofun, nofun, take_while_ne_nil (fun c => !isNewline c) '-' ('-' :: rest) rfl⟩
  | blockComment body text rest found => exact .inl ⟨nofun, nofun, nofun, nofun⟩
  | punctuation c kind rest found =>
      obtain ⟨readable, inside⟩ := punctuation_kind c kind found
      exact .inl ⟨readable, inside, nofun, nofun⟩
  | backticked word rest members => exact .inl ⟨nofun, nofun, nofun, nofun⟩
  | quoted quote body text rest isQuote found => exact .inl ⟨nofun, nofun, nofun, nofun⟩
  | operator c rest member noComment => exact .inl ⟨nofun, nofun, nofun, take_while_ne_nil isOperatorChar c rest member⟩
  | number c rest text after digit found ends =>
      have written := number_text_ne_nil c rest digit
      rw [found] at written
      exact .inl ⟨nofun, nofun, nofun, written⟩
  | word c rest member notDigit => exact .inl (word_is_token c rest member)

theorem dotted_token (input : List Char) (lexeme : Lexeme) (found : readDotted? input = some lexeme) :
    lexeme.IsToken := by
  obtain ⟨rest, _, rfl⟩ | ⟨c, rest, _, member, rfl⟩ := (read_dotted_iff input lexeme).mp found
  · exact ⟨nofun, nofun, nofun, nofun⟩
  · exact word_is_token c rest member

theorem Reads.append {input : List Char} {lexeme : Lexeme} (reads : Reads input lexeme) :
    lexeme.text ++ lexeme.rest = input := by
  cases reads with
  | endOfInput => rfl
  | lineComment rest => exact run_append ..
  | blockComment body text rest found => simp [comment_end_append body text rest found]
  | punctuation c kind rest found => rfl
  | backticked word rest members => simp
  | quoted quote body text rest isQuote found => simp [quote_end_append quote false body text rest found]
  | operator c rest member noComment => exact run_append ..
  | number c rest text after digit found ends =>
      have whole := NumberPart.split_append .start (c :: rest)
      rwa [found] at whole
  | word c rest member notDigit => exact word_append ..

theorem read_dotted_append (input : List Char) (lexeme : Lexeme) (found : readDotted? input = some lexeme) :
    lexeme.text ++ lexeme.rest = input := by
  obtain ⟨rest, rfl, rfl⟩ | ⟨c, rest, rfl, member, rfl⟩ := (read_dotted_iff input lexeme).mp found
  · rfl
  · exact word_append ..

theorem Reads.progress {input : List Char} {lexeme : Lexeme} (reads : Reads input lexeme) :
    lexeme.next = .finished ∨ lexeme.text ≠ [] := by
  rcases reads_token input lexeme reads with isToken | ⟨_, rfl⟩
  · exact .inr isToken.written
  · exact .inl rfl

end SqlOutline.Lexeme
