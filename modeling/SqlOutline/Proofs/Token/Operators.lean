import SqlOutline.Proofs.Token.Position

set_option autoImplicit false

namespace SqlOutline

-- Neither a blank nor the start of any token.
structure Unreadable (c : Char) : Prop where
  visible : isBlank c = false
  noMark : c ∉ ['(', ')', ',', ';', '.']
  noQuote : c ∉ ['\'', '"', '`']
  noOperator : isOperatorChar c = false
  noWord : isWordChar c = false

-- What the text of a token decides, where it starts with an operator character and has `rest` after it.
structure ToldApart (kind : TokenKind) (text rest : List Char) : Prop where
  onLine : kind = .singleLineComment ↔ ['-', '-'] <+: text
  onLines : kind = .multiLineComment ↔ ['/', '*'] <+: text
  otherwise : kind = .operator ↔ ¬ ['-', '-'] <+: text ∧ ¬ ['/', '*'] <+: text
  longest : kind = .operator → (text ++ rest).takeWhile isOperatorChar = text

def StartsOperator (text : List Char) : Prop :=
  ∃ c ∈ text.head?, isOperatorChar c = true

theorem starts_operator_cons (c : Char) (text : List Char) : StartsOperator (c :: text) ↔ isOperatorChar c = true := by
  simp [StartsOperator]

theorem punctuation_none_iff (c : Char) : punctuation? c = none ↔ c ∉ ['(', ')', ',', ';', '.'] := by
  unfold punctuation?
  repeat' split
  all_goals simp_all

theorem run_stops (text rest : List Char) (longest : (text ++ rest).takeWhile isOperatorChar = text) :
    ¬ StartsOperator rest := by
  have members : ∀ c ∈ text, isOperatorChar c = true := longest ▸ List.all_eq_true.mp List.all_takeWhile
  rw [List.takeWhile_append_of_pos members] at longest
  have stopped := List.append_cancel_left (longest.trans (List.append_nil text).symm)
  cases rest with
  | nil => exact nofun
  | cons c rest =>
      rw [starts_operator_cons]
      exact fun operator => Lexeme.take_while_ne_nil isOperatorChar c rest operator stopped

namespace Lexeme

theorem starts_comment_iff (c : Char) (rest : List Char) :
    StartsComment c rest ↔ ['-', '-'] <+: c :: rest ∨ ['/', '*'] <+: c :: rest := by
  cases rest <;> simp [StartsComment, List.cons_prefix_cons, eq_comm]

theorem operator_told_apart (c : Char) (rest : List Char) (noComment : ¬ StartsComment c rest) :
    ToldApart .operator ((c :: rest).takeWhile isOperatorChar) ((c :: rest).dropWhile isOperatorChar) := by
  have whole : (c :: rest).takeWhile isOperatorChar <+: c :: rest := List.takeWhile_prefix _
  obtain ⟨noLine, noBlock⟩ := not_or.mp (mt (starts_comment_iff c rest).mpr noComment)
  have noLine : ¬ ['-', '-'] <+: (c :: rest).takeWhile isOperatorChar := fun opens => noLine (opens.trans whole)
  have noBlock : ¬ ['/', '*'] <+: (c :: rest).takeWhile isOperatorChar := fun opens => noBlock (opens.trans whole)
  exact {
    onLine := iff_of_false nofun noLine
    onLines := iff_of_false nofun noBlock
    otherwise := iff_of_true rfl ⟨noLine, noBlock⟩
    longest := fun _ => by rw [List.takeWhile_append_dropWhile]
  }

theorem word_starts_no_operator (c : Char) (rest : List Char) (member : isWordChar c = true) :
    ¬ StartsOperator (word (c :: rest)).text := by
  rw [word_text, List.takeWhile_cons_of_pos member, starts_operator_cons]
  exact (word_char_plain c member).2.2.2.2.2

theorem number_starts_no_operator (c : Char) (rest : List Char) (digit : c.isDigit = true) :
    ¬ StartsOperator (NumberPart.start.split (c :: rest)).1 := by
  have whole := NumberPart.split_append .start (c :: rest)
  obtain ⟨d, text, written⟩ := List.exists_cons_of_ne_nil (number_text_ne_nil c rest digit)
  rw [written] at whole ⊢
  obtain ⟨rfl, _⟩ := List.cons.inj whole
  rw [starts_operator_cons]
  exact (word_char_plain d (is_word_char_of_digit d digit)).2.2.2.2.2

theorem reads_told_apart (input : List Char) (lexeme : Lexeme) (reads : Reads input lexeme)
    (starts : StartsOperator lexeme.text) : ToldApart lexeme.kind lexeme.text lexeme.rest := by
  cases reads with
  | lineComment rest =>
      have opens : ['-', '-'] <+: (run .singleLineComment (fun c => !isNewline c) ('-' :: '-' :: rest)).text :=
        ⟨rest.takeWhile fun c => !isNewline c, rfl⟩
      exact {
        onLine := iff_of_true rfl opens
        onLines := iff_of_false nofun fun ⟨_, other⟩ => absurd (List.cons.inj other).1 (by decide)
        otherwise := iff_of_false nofun fun ⟨noLine, _⟩ => noLine opens
        longest := nofun
      }
  | blockComment body text rest found =>
      have opens : ['/', '*'] <+: '/' :: '*' :: text := ⟨text, rfl⟩
      exact {
        onLine := iff_of_false nofun fun ⟨_, other⟩ => absurd (List.cons.inj other).1 (by decide)
        onLines := iff_of_true rfl opens
        otherwise := iff_of_false nofun fun ⟨_, noBlock⟩ => noBlock opens
        longest := nofun
      }
  | operator c rest member noComment => exact operator_told_apart c rest noComment
  -- No other token starts with an operator character.
  | endOfInput =>
      obtain ⟨_, first, _⟩ := starts
      contradiction
  | punctuation c kind rest found =>
      rw [(operator_char_plain c ((starts_operator_cons c _).mp starts)).1] at found
      contradiction
  | backticked word rest members =>
      exact absurd ((starts_operator_cons _ _).mp starts) (by decide)
  | quoted quote body text rest isQuote found =>
      exact absurd isQuote (operator_char_plain quote ((starts_operator_cons quote _).mp starts)).2.2
  | number c rest text after digit found ends =>
      have noOperator := number_starts_no_operator c rest digit
      rw [found] at noOperator
      exact absurd starts noOperator
  | word c rest member notDigit => exact absurd starts (word_starts_no_operator c rest member)

theorem dotted_starts_no_operator (input : List Char) (lexeme : Lexeme) (found : readDotted? input = some lexeme) :
    ¬ StartsOperator lexeme.text := by
  obtain ⟨rest, _, rfl⟩ | ⟨c, rest, _, member, rfl⟩ := (read_dotted_iff input lexeme).mp found
  · rw [starts_operator_cons]
    decide
  · exact word_starts_no_operator c rest member

theorem word_kind (input : List Char) : (word input).kind ≠ .operator := by
  simp only [word]
  split
  · simp
  · split <;> simp

theorem punctuation_no_operator (c : Char) : punctuation? c ≠ some .operator := by
  unfold punctuation?
  repeat' split
  all_goals exact nofun

theorem operator_starts (place : Place) (input : List Char) (lexeme : Lexeme) (accepted : readAt place input = .ok lexeme)
    (isOperator : lexeme.kind = .operator) : StartsOperator lexeme.text := by
  rcases read_at_cases place input lexeme accepted with ⟨_, dotted⟩ | ⟨_, reads⟩
  · obtain ⟨rest, _, rfl⟩ | ⟨c, rest, _, _, rfl⟩ := (read_dotted_iff input lexeme).mp dotted
    · contradiction
    · exact absurd isOperator (word_kind (c :: rest))
  · cases reads with
    | operator c rest member noComment => exact ⟨c, by simp [run, member], member⟩
    | punctuation c kind rest found => exact absurd (isOperator ▸ found) (punctuation_no_operator c)
    | word c rest => exact absurd isOperator (word_kind (c :: rest))
    | _ => contradiction

theorem unreadable_of_read (input : List Char) (c : Char) (starts : Pending input)
    (failed : read input = .error (.unrecognized c)) : Unreadable c ∧ ∃ rest, input = c :: rest := by
  cases refuses_of_read input _ failed with
  | character _ rest noMark noTick noQuote noOperator noWord =>
      obtain ⟨noDouble, noSingle⟩ := not_or.mp noQuote
      refine ⟨?_, rest, rfl⟩
      exact {
        visible := starts c rfl
        noMark := (punctuation_none_iff c).mp noMark
        noQuote := by simp [noTick, noDouble, noSingle]
        noOperator := noOperator
        noWord := noWord
      }

theorem read_of_unreadable (c : Char) (rest : List Char) (unreadable : Unreadable c) :
    read (c :: rest) = .error (.unrecognized c) := by
  have noMark := (punctuation_none_iff c).mpr unreadable.noMark
  have noQuote := unreadable.noQuote
  have noOperator := unreadable.noOperator
  have noWord := unreadable.noWord
  have noDigit : c.isDigit = false := by
    refine Bool.eq_false_iff.mpr fun digit => ?_
    exact absurd (is_word_char_of_digit c digit) (Bool.eq_false_iff.mp noWord)
  have notDash : c ≠ '-' := by
    rintro rfl
    contradiction
  have notSlash : c ≠ '/' := by
    rintro rfl
    contradiction
  simp_all [read]

end Lexeme

theorem Lexer.Takes.told_apart {place : Place} {gap : List Char} {lexeme : Lexeme} (takes : Takes place gap lexeme)
    (starts : StartsOperator lexeme.text) : ToldApart lexeme.kind lexeme.text lexeme.rest := by
  rcases Lexeme.read_at_cases _ _ lexeme takes.accepted with ⟨_, dotted⟩ | ⟨_, reads⟩
  · exact absurd starts (Lexeme.dotted_starts_no_operator _ lexeme dotted)
  · exact Lexeme.reads_told_apart _ lexeme reads starts

theorem Lexer.fails_unreadable (place : Place) (gap rest : List Char) (c : Char) (unfinished : place ≠ .finished)
    (blank : Blank gap) (unreadable : Unreadable c) : Fails place gap (c :: rest) (.unrecognized c) := by
  have starts : Pending (c :: rest) := first_holds c rest unreadable.visible
  have noDot : c ≠ '.' := by
    rintro rfl
    exact absurd unreadable.noMark (by decide)
  have undotted := (Lexeme.dotted_none_iff c rest).mpr ⟨noDot, unreadable.noWord⟩
  refine ⟨unfinished, blank, starts, ?_⟩
  rw [Lexeme.read_at_of_undotted _ _ fun _ => undotted]
  exact Lexeme.read_of_unreadable c rest unreadable

def unrecognizedPrefix : List Char :=
  "unrecognized character".toList

namespace LexError

theorem unrecognized_message (c : Char) :
    (unrecognized c).message.toList = unrecognizedPrefix ++ (": ".toList ++ (quotedChar c).toList) := by
  have written : (unrecognized c).message.toList = "unrecognized character: ".toList ++ (quotedChar c).toList :=
    String.toList_append
  rw [written, ← List.append_assoc]
  rfl

theorem bad_number_message (text : String) :
    (badNumber text).message.toList = 'b' :: ("ad number syntax: ".toList ++ (quotedText text).toList) :=
  String.toList_append

theorem prefix_iff (cause : LexError) : unrecognizedPrefix <+: cause.message.toList ↔ ∃ c, cause = .unrecognized c := by
  cases cause with
  | unrecognized c =>
      rw [unrecognized_message]
      exact iff_of_true (List.prefix_append ..) ⟨c, rfl⟩
  | badNumber text =>
      rw [bad_number_message]
      exact iff_of_false (fun spelled => absurd (List.cons_prefix_cons.mp spelled).1 (by decide)) nofun
  | unterminatedComment => exact iff_of_false (by decide) nofun
  | unterminatedString => exact iff_of_false (by decide) nofun
  | unterminatedBacktick => exact iff_of_false (by decide) nofun

theorem message_starts_no_operator (cause : LexError) : ¬ StartsOperator cause.message.toList := by
  cases cause with
  | unrecognized c =>
      rw [unrecognized_message]
      exact mt (starts_operator_cons 'u' _).mp (by decide)
  | badNumber text =>
      rw [bad_number_message]
      exact mt (starts_operator_cons 'b' _).mp (by decide)
  | unterminatedComment => exact mt (starts_operator_cons 'e' _).mp (by decide)
  | unterminatedString => exact mt (starts_operator_cons 'u' _).mp (by decide)
  | unterminatedBacktick => exact mt (starts_operator_cons 'u' _).mp (by decide)

end LexError

namespace Layout

def Reaches (layout : Layout) (c : Char) : Prop :=
  ∃ front back gap rest, layout.pieces = front ++ back ∧ Blank gap ∧ layout.onward back = gap ++ c :: rest

structure TellsApart (layout : Layout) : Prop where
  told : ∀ front gap token back, layout.pieces = front ++ (gap, token) :: back → StartsOperator token.text.toList →
    ToldApart token.kind token.text.toList (layout.onward back)
  operator : ∀ front gap token back, layout.pieces = front ++ (gap, token) :: back → token.kind = .operator →
    StartsOperator token.text.toList ∧ ¬ StartsOperator (layout.onward back)
  apart : ∀ front gap first second back, layout.pieces = front ++ (gap, first) :: ("", second) :: back →
    ¬ (first.kind = .operator ∧ second.kind = .operator)
  last : ¬ StartsOperator layout.terminal.text.toList
  unrecognized : layout.terminal.kind = .error ∧ unrecognizedPrefix <+: layout.terminal.text.toList ↔
    ∃ c, layout.Reaches c ∧ Unreadable c
  named : ∀ c, layout.Reaches c → Unreadable c → layout.terminal.text = (LexError.unrecognized c).message

theorem terminal_starts_no_operator (layout : Layout) : ¬ StartsOperator layout.terminal.text.toList := by
  rcases layout.ends with ⟨_, empty, _⟩ | ⟨_, _, _, cause, _, message⟩
  · rw [empty]
    exact nofun
  · rw [message]
    exact cause.message_starts_no_operator

theorem reaches_unrecognized (layout : Layout) (failed : layout.terminal.kind = .error)
    (spelled : unrecognizedPrefix <+: layout.terminal.text.toList) : ∃ c, layout.Reaches c ∧ Unreadable c := by
  rcases layout.ends with ⟨ended, _⟩ | ⟨_, _, starts, cause, unread, message⟩
  · rw [failed] at ended
    contradiction
  · obtain ⟨c, rfl⟩ := cause.prefix_iff.mp (message ▸ spelled)
    obtain ⟨unreadable, rest, tail⟩ := Lexeme.unreadable_of_read _ c starts unread
    refine ⟨c, ⟨layout.pieces, [], layout.gap.toList, rest, (List.append_nil _).symm, layout.blankEnd, ?_⟩, unreadable⟩
    rw [onward, tail]
    rfl

namespace Divides

variable {layout : Layout} {sql : String}

theorem told_apart (divides : layout.Divides sql) (front back : List (String × Token)) (gap : String) (token : Token)
    (split : layout.pieces = front ++ (gap, token) :: back) (starts : StartsOperator token.text.toList) :
    ToldApart token.kind token.text.toList (layout.onward back) := by
  obtain ⟨place, next, takes⟩ := divides.takes front back gap token split
  exact takes.told_apart starts

theorem operator_whole (divides : layout.Divides sql) (front back : List (String × Token)) (gap : String) (token : Token)
    (split : layout.pieces = front ++ (gap, token) :: back) (isOperator : token.kind = .operator) :
    StartsOperator token.text.toList ∧ ¬ StartsOperator (layout.onward back) := by
  obtain ⟨place, next, takes⟩ := divides.takes front back gap token split
  have starts : StartsOperator token.text.toList := Lexeme.operator_starts _ _ _ takes.accepted isOperator
  refine ⟨starts, ?_⟩
  have longest := (takes.told_apart starts).longest isOperator
  exact run_stops _ _ longest

theorem operators_apart (divides : layout.Divides sql) (front back : List (String × Token)) (gap : String)
    (first second : Token) (split : layout.pieces = front ++ (gap, first) :: ("", second) :: back) :
    ¬ (first.kind = .operator ∧ second.kind = .operator) := by
  rintro ⟨isOperator, alsoOperator⟩
  obtain ⟨_, stops⟩ := divides.operator_whole front _ gap first split isOperator
  rw [List.append_cons] at split
  obtain ⟨⟨c, head, operator⟩, _⟩ := divides.operator_whole _ back "" second split alsoOperator
  have first : c ∈ (layout.onward (("", second) :: back)).head? := by
    rw [onward_cons, String.toList_empty, List.nil_append]
    exact Option.mem_def.mpr (by rw [List.head?_append, head]; rfl)
  exact stops ⟨c, first, operator⟩

theorem ends_unrecognized (divides : layout.Divides sql) (c : Char) (reaches : layout.Reaches c)
    (unreadable : Unreadable c) :
    layout.terminal.kind = .error ∧ layout.terminal.text = (LexError.unrecognized c).message := by
  obtain ⟨front, back, gap, rest, split, blank, onward⟩ := reaches
  obtain ⟨line, place, unfinished, reads⟩ := divides.reached front back split
  rw [onward, Lexer.tokens_of_fails line (Lexer.fails_unreadable place gap rest c unfinished blank unreadable)] at reads
  cases back with
  | nil =>
      obtain ⟨terminal, _⟩ := List.cons.inj reads
      rw [← terminal]
      exact ⟨rfl, rfl⟩
  | cons piece back => simp at reads

theorem tells_apart (divides : layout.Divides sql) : layout.TellsApart where
  told front gap token back := divides.told_apart front back gap token
  operator front gap token back := divides.operator_whole front back gap token
  apart front gap first second back := divides.operators_apart front back gap first second
  last := layout.terminal_starts_no_operator
  unrecognized := by
    constructor
    · rintro ⟨failed, spelled⟩
      exact layout.reaches_unrecognized failed spelled
    · rintro ⟨c, reaches, unreadable⟩
      obtain ⟨failed, message⟩ := divides.ends_unrecognized c reaches unreadable
      exact ⟨failed, message ▸ (LexError.prefix_iff _).mpr ⟨c, rfl⟩⟩
  named c reaches unreadable := (divides.ends_unrecognized c reaches unreadable).2

end Divides

end Layout

-- In every text, at every token: two characters tell a comment from an operator, an operator is as long as it can be,
-- and an error about a character is an error about one that starts no token.
theorem tokenize_tells_operators_apart (sql : String) :
    (∃ layout : Layout, layout.Divides sql) ∧ ∀ layout : Layout, layout.Divides sql → layout.TellsApart :=
  ⟨exists_division sql, fun _ divides => divides.tells_apart⟩

-- An opening of a comment inside an operator opens nothing.
example : tokenize "1+--/*a --b" =
    [⟨.number, "1", 1⟩, ⟨.operator, "+--/*", 1⟩, ⟨.identifier, "a", 1⟩, ⟨.singleLineComment, "--b", 1⟩,
      ⟨.endOfInput, "", 1⟩] := by
  decide +kernel

end SqlOutline
