import SqlOutline.Proofs.Token.Numbers
import SqlOutline.Proofs.Token.Words

set_option autoImplicit false

namespace SqlOutline

-- The quote and the backslash only stand in the text after a backslash, and a newline not even there.
inductive QuotedUnit (quote : Char) : List Char → Prop where
  | plain (c : Char) (oneLine : isNewline c = false) (notEscape : c ≠ '\\') (notQuote : c ≠ quote) : QuotedUnit quote [c]
  | escaped (c : Char) (oneLine : isNewline c = false) : QuotedUnit quote ['\\', c]

def QuotedText (text : String) : Prop :=
  ∃ (quote : Char) (units : List (List Char)), (quote = '"' ∨ quote = '\'') ∧ (∀ unit ∈ units, QuotedUnit quote unit) ∧
    text.toList = quote :: (units.flatten ++ [quote])

-- An error and the end of the input have no text of their own.
def TokenKind.Spells : TokenKind → String → Prop
  | .error, _ => False
  | .endOfInput, _ => False
  | .singleLineComment, text => LineComment text
  | .multiLineComment, text => BlockComment text
  | .keyword, text => KeywordText text
  | .identifier, text => BareWord text
  | .backtickedIdentifier, text => Backticked text
  | .operator, text => OperatorText text
  | .leftParen, text => text = "("
  | .rightParen, text => text = ")"
  | .comma, text => text = ","
  | .dot, text => text = "."
  | .statementEnd, text => text = ";"
  | .number, text => NumberText text
  | .string, text => QuotedText text

theorem is_word_of_same_case (text word : String) (same : foldCase text = foldCase word) (isWord : IsWord word) :
    IsWord text := by
  have chars := (same_case_iff text word).mp same
  refine ⟨?_, fun c member => ?_, fun c first => ?_⟩
  · rintro rfl
    rw [String.toList_empty, List.map_nil] at chars
    exact isWord.written (String.toList_eq_nil_iff.mp (List.map_eq_nil_iff.mp chars.symm))
  · have lowered : c.toLower ∈ word.toList.map Char.toLower := chars ▸ List.mem_map_of_mem member
    obtain ⟨d, listed, equal⟩ := List.mem_map.mp lowered
    rw [← is_word_char_to_lower c, ← equal, is_word_char_to_lower d]
    exact isWord.members d listed
  · have lowered : (word.toList.map Char.toLower).head? = some c.toLower := by rw [← chars, List.head?_map, first]; rfl
    rw [List.head?_map] at lowered
    obtain ⟨d, listed, equal⟩ := Option.map_eq_some_iff.mp lowered
    rw [← is_digit_to_lower c, ← equal, is_digit_to_lower d]
    exact isWord.start d listed

theorem KeywordText.isWord {text : String} (spelled : KeywordText text) : IsWord text := by
  obtain ⟨keyword, same⟩ := spelled
  exact is_word_of_same_case text keyword.text ((equal_ignoring_case_iff _ _).mp same) (keyword_is_word keyword)

theorem quote_plain (quote : Char) (isQuote : quote = '"' ∨ quote = '\'') : quote ≠ '\\' ∧ isNewline quote = false := by
  rcases isQuote with rfl | rfl <;> decide

section Quotes

variable (quote : Char)

theorem unit_or_quote (body : List Char) (closed : (Lexeme.quoteEnd? quote false body).isSome = true) :
    (∃ rest, body = quote :: rest) ∨ ∃ unit tail, body = unit ++ tail ∧ QuotedUnit quote unit := by
  cases body with
  | nil => contradiction
  | cons c tail =>
      by_cases closing : c = quote
      · exact .inl ⟨tail, by rw [closing]⟩
      · refine .inr ?_
        have sameLine : isNewline c = false := by
          cases newline : isNewline c with
          | false => rfl
          | true => simp [Lexeme.quoteEnd?, newline] at closed
        by_cases escape : c = '\\'
        · subst escape
          cases tail with
          | nil => simp [Lexeme.quoteEnd?, sameLine, closing] at closed
          | cons d after =>
              have nextLine : isNewline d = false := by
                cases newline : isNewline d with
                | false => rfl
                | true => simp [Lexeme.quoteEnd?, sameLine, closing, newline] at closed
              exact ⟨['\\', d], after, rfl, .escaped d nextLine⟩
        · exact ⟨[c], tail, rfl, .plain c sameLine escape closing⟩

variable (notEscape : quote ≠ '\\') (oneLine : isNewline quote = false)

include notEscape

theorem quote_end_unit (unit tail : List Char) (isUnit : QuotedUnit quote unit) :
    Lexeme.quoteEnd? quote false (unit ++ tail) =
      (Lexeme.quoteEnd? quote false tail).map fun result => (unit ++ result.1, result.2) := by
  cases isUnit with
  | plain c sameLine plain notQuote =>
      have unescaped : (c == '\\') = false := beq_false_of_ne plain
      simp [Lexeme.quoteEnd?, sameLine, notQuote, unescaped]
  | escaped c sameLine =>
      have backslash : isNewline '\\' = false := by decide
      simp [Lexeme.quoteEnd?, sameLine, backslash, notEscape.symm, Function.comp_def]

include oneLine

theorem quote_end_of_units (units : List (List Char)) (rest : List Char)
    (areUnits : ∀ unit ∈ units, QuotedUnit quote unit) :
    Lexeme.quoteEnd? quote false (units.flatten ++ quote :: rest) = some (units.flatten ++ [quote], rest) := by
  induction units with
  | nil => simp [Lexeme.quoteEnd?, oneLine]
  | cons unit units ih =>
      obtain ⟨isUnit, others⟩ := List.forall_mem_cons.mp areUnits
      rw [List.flatten_cons, List.append_assoc, quote_end_unit quote notEscape unit _ isUnit, ih others]
      simp

theorem exists_units (body text rest : List Char) (found : Lexeme.quoteEnd? quote false body = some (text, rest)) :
    ∃ units : List (List Char), (∀ unit ∈ units, QuotedUnit quote unit) ∧ text = units.flatten ++ [quote] := by
  rcases unit_or_quote quote body (by rw [found]; rfl) with ⟨after, closing⟩ | ⟨unit, tail, split, isUnit⟩
  · have ended := quote_end_of_units quote notEscape oneLine [] after nofun
    rw [List.flatten_nil, List.nil_append, ← closing, found] at ended
    exact ⟨[], nofun, (Prod.mk.inj (Option.some.inj ended)).1⟩
  · have written : 0 < unit.length := by cases isUnit <;> exact Nat.zero_lt_succ _
    have shorter : tail.length < body.length := by
      rw [split, List.length_append]
      omega
    rw [split, quote_end_unit quote notEscape unit tail isUnit] at found
    obtain ⟨result, inner, same⟩ := Option.map_eq_some_iff.mp found
    obtain ⟨units, areUnits, spelled⟩ := exists_units tail result.1 result.2 inner
    refine ⟨unit :: units, List.forall_mem_cons.mpr ⟨isUnit, areUnits⟩, ?_⟩
    rw [List.flatten_cons, List.append_assoc, ← spelled]
    exact (congrArg Prod.fst same).symm
termination_by body.length
decreasing_by exact shorter

end Quotes

theorem quoted_text_iff (text : String) :
    QuotedText text ↔
      ∃ quote ∈ text.toList.head?, (quote = '"' ∨ quote = '\'') ∧
        Lexeme.quoteEnd? quote false text.toList.tail = some (text.toList.tail, []) := by
  constructor
  · rintro ⟨quote, units, isQuote, areUnits, chars⟩
    obtain ⟨notEscape, oneLine⟩ := quote_plain quote isQuote
    rw [chars]
    exact ⟨quote, rfl, isQuote, quote_end_of_units quote notEscape oneLine units [] areUnits⟩
  · rintro ⟨quote, first, isQuote, found⟩
    obtain ⟨notEscape, oneLine⟩ := quote_plain quote isQuote
    obtain ⟨units, areUnits, spelled⟩ := exists_units quote notEscape oneLine _ _ _ found
    obtain ⟨tail, chars⟩ := List.head?_eq_some_iff.mp first
    refine ⟨quote, units, isQuote, areUnits, ?_⟩
    rw [← spelled, chars, List.tail_cons]

section Decisions

instance (text : String) : Decidable (QuotedText text) :=
  decidable_of_iff
    (text.toList.head?.any (fun quote => decide ((quote = '"' ∨ quote = '\'') ∧
      Lexeme.quoteEnd? quote false text.toList.tail = some (text.toList.tail, []))) = true) (by
      simp only [quoted_text_iff, Option.any_eq_true, decide_eq_true_eq, Option.mem_def])

instance (kind : TokenKind) (text : String) : Decidable (kind.Spells text) :=
  match kind with
  | .error => inferInstanceAs (Decidable False)
  | .endOfInput => inferInstanceAs (Decidable False)
  | .singleLineComment => inferInstanceAs (Decidable (LineComment text))
  | .multiLineComment => inferInstanceAs (Decidable (BlockComment text))
  | .keyword => inferInstanceAs (Decidable (KeywordText text))
  | .identifier => inferInstanceAs (Decidable (BareWord text))
  | .backtickedIdentifier => inferInstanceAs (Decidable (Backticked text))
  | .operator => inferInstanceAs (Decidable (OperatorText text))
  | .leftParen => inferInstanceAs (Decidable (text = "("))
  | .rightParen => inferInstanceAs (Decidable (text = ")"))
  | .comma => inferInstanceAs (Decidable (text = ","))
  | .dot => inferInstanceAs (Decidable (text = "."))
  | .statementEnd => inferInstanceAs (Decidable (text = ";"))
  | .number => inferInstanceAs (Decidable (NumberText text))
  | .string => inferInstanceAs (Decidable (QuotedText text))

end Decisions

end SqlOutline
