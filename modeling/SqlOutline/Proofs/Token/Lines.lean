import SqlOutline.Proofs.Token.Recognition
import SqlOutline.Proofs.Token.Spelling

set_option autoImplicit false

namespace SqlOutline

def EndsLine (rest : List Char) : Prop :=
  ∀ c ∈ rest.head?, c = '\n'

theorem EndsLine.satisfies {rest : List Char} {holds : Char → Prop} (ends : EndsLine rest) (newline : holds '\n') :
    ∀ c ∈ rest.head?, holds c :=
  fun c first => ends c first ▸ newline

theorem quoted_reads (text : String) (rest : List Char) (isQuoted : QuotedText text) :
    Lexeme.Reads (text.toList ++ rest) ⟨.string, text.toList, rest, .gap⟩ := by
  obtain ⟨quote, units, isQuote, areUnits, chars⟩ := isQuoted
  obtain ⟨notEscape, oneLine⟩ := quote_plain quote isQuote
  have found := quote_end_of_units quote notEscape oneLine units rest areUnits
  rw [chars, List.cons_append, List.append_assoc]
  exact .quoted quote _ _ rest isQuote found

theorem punctuation_reads (c : Char) (kind : TokenKind) (text : String) (rest : List Char)
    (spelled : text = String.singleton c) (found : punctuation? c = some kind) :
    Lexeme.Reads (text.toList ++ rest) ⟨kind, text.toList, rest, .gap⟩ := by
  rw [spelled, String.toList_singleton]
  exact .punctuation c kind rest found

theorem reads_of_spelled (kind : TokenKind) (text : String) (rest : List Char) (spelled : kind.Spells text)
    (ends : EndsLine rest) : Lexeme.Reads (text.toList ++ rest) ⟨kind, text.toList, rest, .gap⟩ := by
  cases kind with
  | error => contradiction
  | endOfInput => contradiction
  | singleLineComment => exact line_comment_reads text rest spelled (ends.satisfies (by decide))
  | multiLineComment => exact block_comment_reads text rest spelled
  | keyword => exact spelled.isWord.reads_keyword rest ((keyword_text_iff text).mp spelled) (ends.satisfies (by decide))
  | identifier => exact spelled.reads rest (ends.satisfies (by decide))
  | backtickedIdentifier => exact backticked_reads text rest spelled
  | operator => exact operator_reads text rest spelled (ends.satisfies (by decide))
  | leftParen => exact punctuation_reads '(' _ text rest spelled rfl
  | rightParen => exact punctuation_reads ')' _ text rest spelled rfl
  | comma => exact punctuation_reads ',' _ text rest spelled rfl
  | dot => exact punctuation_reads '.' _ text rest spelled rfl
  | statementEnd => exact punctuation_reads ';' _ text rest spelled rfl
  | number => exact number_reads text rest spelled (ends.satisfies (by decide))
  | string => exact quoted_reads text rest spelled

def onLines (lexemes : List (TokenKind × String)) : String :=
  "\n".intercalate (lexemes.map Prod.snd)

-- Each lexeme as a token. Its line is the one that the text up to the end of the lexeme ends on.
def tokensOnLines (line : Nat) (lexemes : List (TokenKind × String)) : List Token :=
  lexemes.zipIdx.map fun entry =>
    ⟨entry.1.1, entry.1.2, line + (onLines (lexemes.take (entry.2 + 1))).toList.count '\n'⟩

section Lines

variable (line : Nat) (lexeme next : TokenKind × String) (others : List (TokenKind × String))

theorem on_lines_singleton : onLines [lexeme] = lexeme.2 := by
  simp [onLines]

theorem on_lines_cons :
    (onLines (lexeme :: next :: others)).toList = lexeme.2.toList ++ '\n' :: (onLines (next :: others)).toList := by
  simp [onLines, String.intercalate_cons_cons, String.toList_append]

theorem newlines_on_lines_cons :
    newlines (onLines (lexeme :: next :: others)).toList =
      newlines lexeme.2.toList + 1 + newlines (onLines (next :: others)).toList := by
  rw [on_lines_cons, newlines_append, ← List.singleton_append, newlines_append, Nat.add_assoc]
  rfl

theorem tokens_on_lines_cons :
    tokensOnLines line (lexeme :: next :: others) =
      ⟨lexeme.1, lexeme.2, line + newlines lexeme.2.toList⟩ ::
        tokensOnLines (line + newlines lexeme.2.toList + 1) (next :: others) := by
  simp only [tokensOnLines]
  rw [List.zipIdx_cons', List.map_cons, List.map_map]
  congr 1
  apply List.map_congr_left
  intro entry _
  have moved := newlines_on_lines_cons lexeme next (others.take entry.2)
  simp only [newlines] at moved ⊢
  simp only [Function.comp_apply, Prod.map_fst, Prod.map_snd, id_eq, List.take_succ_cons, moved, Nat.add_assoc]

end Lines

theorem tokens_from_lines (line : Nat) (lexemes : List (TokenKind × String))
    (spelled : ∀ lexeme ∈ lexemes, lexeme.1.Spells lexeme.2) :
    tokensFrom line (onLines lexemes).toList =
      tokensOnLines line lexemes ++ [⟨.endOfInput, "", line + newlines (onLines lexemes).toList⟩] := by
  induction lexemes generalizing line with
  | nil => exact tokens_from_end line
  | cons lexeme others ih =>
      obtain ⟨spells, further⟩ := List.forall_mem_cons.mp spelled
      cases others with
      | nil =>
          have reads := reads_of_spelled lexeme.1 lexeme.2 [] spells nofun
          rw [List.append_nil] at reads
          rw [on_lines_singleton, tokens_from_lexeme line _ _ _ _ reads, tokens_from_end]
          simp [tokensOnLines, on_lines_singleton, newlines]
      | cons next others =>
          have reads := reads_of_spelled lexeme.1 lexeme.2 ('\n' :: (onLines (next :: others)).toList) spells
            fun c first => (Option.some.inj first).symm
          rw [on_lines_cons, tokens_from_lexeme line _ _ _ _ reads, tokens_from_newline, ih _ further,
            tokens_on_lines_cons, ← on_lines_cons, newlines_on_lines_cons]
          simp [Nat.add_assoc]

theorem tokenize_on_lines (lexemes : List (TokenKind × String)) (spelled : ∀ lexeme ∈ lexemes, lexeme.1.Spells lexeme.2) :
    tokenize (onLines lexemes) =
      tokensOnLines 1 lexemes ++ [⟨.endOfInput, "", 1 + (onLines lexemes).toList.count '\n'⟩] :=
  tokens_from_lines 1 lexemes spelled

-- Every kind with a text of its own, among them operators that look like comments further in and numbers that break off.
def oneOfEach : List (TokenKind × String) :=
  [(.singleLineComment, "-- one of each"), (.multiLineComment, "/*/ two\nlines **/"), (.keyword, "Select"),
   (.identifier, "größe"), (.backtickedIdentifier, "`2`"), (.operator, "*--"), (.leftParen, "("), (.number, "0x"),
   (.number, "0.5e-"), (.comma, ","), (.string, "'it\\'s'"), (.rightParen, ")"), (.dot, "."), (.statementEnd, ";")]

theorem tokenize_one_of_each :
    (∀ lexeme ∈ oneOfEach, lexeme.1.Spells lexeme.2) ∧
      tokenize (onLines oneOfEach) = tokensOnLines 1 oneOfEach ++ [⟨.endOfInput, "", 15⟩] :=
  have spelled : ∀ lexeme ∈ oneOfEach, lexeme.1.Spells lexeme.2 := by decide +kernel
  ⟨spelled, tokenize_on_lines oneOfEach spelled⟩

end SqlOutline
