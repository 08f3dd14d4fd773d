import SqlOutline.Proofs.Token.Numbers
import SqlOutline.Proofs.Token.Stream

set_option autoImplicit false

namespace SqlOutline

def Apart (rest : List Char) : Prop :=
  ∀ c ∈ rest.head?, isBlank c = true

def BreaksLine (rest : List Char) : Prop :=
  ∀ c ∈ rest.head?, isNewline c = true

-- What comes after a lexeme can be replaced: the first character stays, or it is a blank before and after.
def SameBoundary (kind : TokenKind) (rest other : List Char) : Prop :=
  other.head? = rest.head? ∨
    (Apart rest ∧ Apart other ∧ (kind = .singleLineComment → BreaksLine other))

theorem mem_blanks (c : Char) (blank : isBlank c = true) : c ∈ [' ', '\t', '\r', '\n'] := by
  simpa [isBlank, isNewline, or_assoc] using blank

theorem forall_blank {holds : Char → Prop} [DecidablePred holds]
    (tested : [' ', '\t', '\r', '\n'].all (fun c => decide (holds c)) = true) (c : Char) (blank : isBlank c = true) :
    holds c :=
  forall_mem_of_all _ tested c (mem_blanks c blank)

-- A lexeme of such a kind ends with its own last character, whatever comes next.
def TokenKind.isClosed : TokenKind → Bool
  | .multiLineComment | .backtickedIdentifier | .leftParen | .rightParen | .comma | .dot | .statementEnd | .string => true
  | _ => false

def Lexeme.StaysBefore (lexeme : Lexeme) (other : List Char) : Prop :=
  lexeme.kind.isClosed = true ∨ SameBoundary lexeme.kind lexeme.rest other

theorem SameBoundary.satisfies {kind : TokenKind} {rest other : List Char} {holds : Char → Prop}
    (boundary : SameBoundary kind rest other) (blanks : ∀ c, isBlank c = true → holds c)
    (before : ∀ c ∈ rest.head?, holds c) : ∀ c ∈ other.head?, holds c := by
  rcases boundary with same | ⟨_, apart, _⟩
  · rwa [same]
  · exact fun c first => blanks c (apart c first)

theorem SameBoundary.head_iff {kind : TokenKind} {rest other : List Char} (boundary : SameBoundary kind rest other)
    (c : Char) (visible : isBlank c = false) : other.head? = some c ↔ rest.head? = some c := by
  rcases boundary with same | ⟨apart, otherApart, _⟩
  · rw [same]
  · constructor
    · intro first
      rw [otherApart c first] at visible
      contradiction
    · intro first
      rw [apart c first] at visible
      contradiction

theorem drop_while_ends (member : Char → Bool) (input : List Char) :
    ∀ c ∈ (input.dropWhile member).head?, member c = false := by
  intro c first
  have outside := List.head?_dropWhile_not member input
  rw [first] at outside
  exact outside

namespace Lexeme

theorem run_boundary (kind : TokenKind) (member : Char → Bool) (input other : List Char)
    (ends : ∀ c ∈ other.head?, member c = false) :
    run kind member (input.takeWhile member ++ other) = { run kind member input with rest := other } := by
  have members : ∀ c ∈ input.takeWhile member, member c = true := List.all_eq_true.mp List.all_takeWhile
  obtain ⟨front, back⟩ := take_while_members member _ other members ends
  simp only [run, front, back]

theorem comment_end_ne_nil (body text rest : List Char) (found : commentEnd? body = some (text, rest)) : text ≠ [] := by
  cases body with
  | nil => contradiction
  | cons c tail =>
      rw [commentEnd?] at found
      split at found
      · cases found
        exact List.cons_ne_nil _ _
      · obtain ⟨result, _, same⟩ := Option.map_eq_some_iff.mp found
        cases same
        exact List.cons_ne_nil _ _

theorem comment_end_boundary (body text rest other : List Char) (found : commentEnd? body = some (text, rest)) :
    commentEnd? (text ++ other) = some (text, other) := by
  induction body generalizing text rest with
  | nil => contradiction
  | cons c tail ih =>
      by_cases closing : c = '*' ∧ tail.head? = some '/'
      · rw [commentEnd?, if_pos closing] at found
        obtain ⟨rfl, rfl⟩ := Prod.mk.inj (Option.some.inj found)
        rfl
      · rw [commentEnd?, if_neg closing] at found
        obtain ⟨result, inner, same⟩ := Option.map_eq_some_iff.mp found
        obtain ⟨rfl, rfl⟩ := Prod.mk.inj same
        -- What is left of the comment is not empty, so the character after `c` is the same.
        have whole := comment_end_append tail result.1 result.2 inner
        obtain ⟨d, after, written⟩ := List.exists_cons_of_ne_nil (comment_end_ne_nil tail result.1 result.2 inner)
        have second : (result.1 ++ other).head? = tail.head? := by rw [← whole, written]; rfl
        rw [List.cons_append, commentEnd?, second, if_neg closing, ih result.1 result.2 inner]
        rfl

theorem quote_end_boundary (quote : Char) (escaped : Bool) (body text rest other : List Char)
    (found : quoteEnd? quote escaped body = some (text, rest)) :
    quoteEnd? quote escaped (text ++ other) = some (text, other) := by
  induction body generalizing escaped text rest with
  | nil => contradiction
  | cons c tail ih =>
      rw [quoteEnd?] at found
      split at found
      · contradiction
      · rename_i sameLine
        split at found
        · rename_i closing
          obtain ⟨rfl, rfl⟩ := Prod.mk.inj (Option.some.inj found)
          rw [List.singleton_append, quoteEnd?, if_neg sameLine, if_pos closing]
        · rename_i open_
          obtain ⟨result, inner, same⟩ := Option.map_eq_some_iff.mp found
          obtain ⟨rfl, rfl⟩ := Prod.mk.inj same
          rw [List.cons_append, quoteEnd?, if_neg sameLine, if_neg open_, ih _ result.1 result.2 inner]
          rfl

theorem split_boundary (part : NumberPart) (kind : TokenKind) (input other : List Char)
    (boundary : SameBoundary kind (part.split input).2 other) :
    part.split ((part.split input).1 ++ other) = ((part.split input).1, other) := by
  have outside : ∀ c, isBlank c = true → isWordChar c = false ∧ c ∉ ['.', '+', '-'] := forall_blank (by decide)
  have stuck (part : NumberPart) (c : Char) (blank : isBlank c = true) : part.next? c = none :=
    part.next_of_outside c (outside c blank).1 (outside c blank).2
  have stops (part : NumberPart) (none : ∀ c ∈ other.head?, part.next? c = none) : part.split other = ([], other) := by
    cases other with
    | nil => rfl
    | cons c other => simp [NumberPart.split, none c rfl]
  induction input generalizing part with
  | nil => exact stops part (boundary.satisfies (stuck part) (by simp [NumberPart.split]))
  | cons c input ih =>
      cases following : part.next? c with
      | none =>
          simp only [NumberPart.split, following] at boundary ⊢
          exact stops part (boundary.satisfies (stuck part) (first_holds c input following))
      | some target =>
          simp only [NumberPart.split, following, List.cons_append] at boundary ⊢
          rw [ih target boundary]

theorem word_boundary (kind : TokenKind) (input other : List Char)
    (boundary : SameBoundary kind (input.dropWhile isWordChar) other) :
    word (input.takeWhile isWordChar ++ other) = { word input with rest := other } := by
  have members : ∀ c ∈ input.takeWhile isWordChar, isWordChar c = true := List.all_eq_true.mp List.all_takeWhile
  have ends := boundary.satisfies (forall_blank (by decide)) (drop_while_ends isWordChar input)
  obtain ⟨front, back⟩ := take_while_members isWordChar _ other members ends
  simp only [word, front, back, boundary.head_iff '.' (by decide)]
  split
  · rfl
  · split <;> rfl

theorem first_of_run (member : Char → Bool) (rest other : List Char) (c : Char) (isMember : member c = true)
    (ends : ∀ c ∈ other.head?, member c = false) (first : (rest.takeWhile member ++ other).head? = some c) :
    rest.head? = some c := by
  cases rest with
  | nil =>
      rw [ends c first] at isMember
      contradiction
  | cons d rest =>
      cases starts : member d with
      | true => simpa [starts] using first
      | false =>
          simp only [List.takeWhile_cons, starts, Bool.false_eq_true, if_false, List.nil_append] at first
          rw [ends c first] at isMember
          contradiction

theorem word_not_closed (input : List Char) : ¬ (word input).kind.isClosed = true := by
  simp only [word]
  split
  · exact Bool.false_ne_true
  · split <;> exact Bool.false_ne_true

theorem reads_boundary (input other : List Char) (lexeme : Lexeme) (reads : Reads input lexeme)
    (isToken : lexeme.IsToken) (stays : lexeme.StaysBefore other) :
    Reads (lexeme.text ++ other) { lexeme with rest := other } := by
  cases reads with
  | endOfInput => exact absurd rfl isToken.inside
  | lineComment rest =>
      have ends : ∀ c ∈ other.head?, (!isNewline c) = false := by
        rcases stays.resolve_left Bool.false_ne_true with same | ⟨_, _, newline⟩
        · rw [same]
          exact drop_while_ends _ _
        · intro c first
          rw [newline rfl c first]
          rfl
      exact run_boundary .singleLineComment (fun c => !isNewline c) ('-' :: '-' :: rest) other ends ▸
        .lineComment (rest.takeWhile (fun c => !isNewline c) ++ other)
  | blockComment body text rest found => exact .blockComment _ text other (comment_end_boundary body text rest other found)
  | punctuation c kind rest found => exact .punctuation c kind other found
  | backticked word rest members => simpa using Reads.backticked word other members
  | quoted quote body text rest isQuote found =>
      exact .quoted quote _ text other isQuote (quote_end_boundary quote false body text rest other found)
  | operator c rest member noComment =>
      have plain : ∀ c, isBlank c = true → isOperatorChar c = false := forall_blank (by decide)
      have boundary := stays.resolve_left Bool.false_ne_true
      have ends := boundary.satisfies plain (drop_while_ends isOperatorChar (c :: rest))
      have stillNoComment : ¬ StartsComment c (rest.takeWhile isOperatorChar ++ other) := by
        rintro (⟨dash, second⟩ | ⟨slash, second⟩)
        · exact noComment (.inl ⟨dash, first_of_run isOperatorChar rest other '-' rfl ends second⟩)
        · exact noComment (.inr ⟨slash, first_of_run isOperatorChar rest other '*' rfl ends second⟩)
      have text : (c :: rest).takeWhile isOperatorChar = c :: rest.takeWhile isOperatorChar := List.takeWhile_cons_of_pos member
      have same := run_boundary .operator isOperatorChar (c :: rest) other ends
      rw [← same, run, text]
      exact .operator c _ member stillNoComment
  | number c rest text after digit found ends =>
      have boundary : SameBoundary .number after other := stays.resolve_left Bool.false_ne_true
      have split := split_boundary .start .number (c :: rest) other (by rwa [found])
      rw [found] at split
      have stillEnds := boundary.satisfies (forall_blank (by decide)) ends
      have written := number_text_ne_nil c rest digit
      have whole := NumberPart.split_append .start (c :: rest)
      rw [found] at written whole
      obtain ⟨d, digits, rfl⟩ := List.exists_cons_of_ne_nil written
      obtain ⟨rfl, _⟩ := List.cons.inj whole
      exact .number d _ _ other digit split stillEnds
  | word c rest member notDigit =>
      have boundary : SameBoundary (word (c :: rest)).kind ((c :: rest).dropWhile isWordChar) other := by
        rw [← word_rest]
        exact stays.resolve_left (word_not_closed _)
      have same := word_boundary _ (c :: rest) other boundary
      have text : (c :: rest).takeWhile isWordChar = c :: rest.takeWhile isWordChar := List.takeWhile_cons_of_pos member
      rw [← same, word_text, text]
      exact .word c _ member notDigit

theorem dotted_boundary (input other : List Char) (lexeme : Lexeme) (found : readDotted? input = some lexeme)
    (stays : lexeme.StaysBefore other) :
    readDotted? (lexeme.text ++ other) = some { lexeme with rest := other } := by
  obtain ⟨rest, _, rfl⟩ | ⟨c, rest, _, member, rfl⟩ := (read_dotted_iff input lexeme).mp found
  · rfl
  · have boundary : SameBoundary (word (c :: rest)).kind ((c :: rest).dropWhile isWordChar) other := by
      rw [← word_rest]
      exact stays.resolve_left (word_not_closed _)
    have same := word_boundary _ (c :: rest) other boundary
    have text : (c :: rest).takeWhile isWordChar = c :: rest.takeWhile isWordChar := List.takeWhile_cons_of_pos member
    rw [← same, word_text, text]
    exact (read_dotted_iff _ _).mpr (.inr ⟨c, _, rfl, member, rfl⟩)

end Lexeme

end SqlOutline
