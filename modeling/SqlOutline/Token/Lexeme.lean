import SqlOutline.Text.Alphanumeric
import SqlOutline.Token
import SqlOutline.Token.NumberSyntax

set_option autoImplicit false

namespace SqlOutline

inductive LexError where
  | unrecognized (c : Char)
  | unterminatedComment
  | unterminatedString
  | unterminatedBacktick
  | badNumber (text : String)
deriving DecidableEq

def LexError.message : LexError → String
  | .unrecognized c => "unrecognized character: " ++ quotedChar c
  | .unterminatedComment => "eof found in middle of multi-line comment"
  | .unterminatedString => "unterminated quoted string"
  | .unterminatedBacktick => "unterminated backtick"
  | .badNumber text => "bad number syntax: " ++ quotedText text

-- Where reading goes on. Between tokens blanks are skipped. In a chain, directly after a dot or
-- before one, a word may start with a digit, and no word before a dot is a keyword.
inductive Place where
  | gap
  | chain
  | finished
deriving DecidableEq

structure Lexeme where
  kind : TokenKind
  text : List Char
  rest : List Char
  next : Place
deriving DecidableEq

def isNewline (c : Char) : Bool :=
  c == '\r' || c == '\n'

def isBlank (c : Char) : Bool :=
  c == ' ' || c == '\t' || isNewline c

def operatorChars : List Char :=
  ['+', '-', '*', '/', '=', '>', '<', '~', '|', '^', '&', '%']

def isOperatorChar (c : Char) : Bool :=
  operatorChars.contains c

def punctuation? (c : Char) : Option TokenKind :=
  if c = '(' then some .leftParen
  else if c = ')' then some .rightParen
  else if c = ',' then some .comma
  else if c = ';' then some .statementEnd
  else if c = '.' then some .dot
  else none

namespace Lexeme

def commentEnd? : List Char → Option (List Char × List Char)
  | [] => none
  | c :: rest =>
      if c = '*' ∧ rest.head? = some '/' then some (['*', '/'], rest.tail)
      else (commentEnd? rest).map fun result => (c :: result.1, result.2)

-- Splits the text after the first `quote` that is not `escaped` by a backslash, if it is on the
-- same line.
def quoteEnd? (quote : Char) : Bool → List Char → Option (List Char × List Char)
  | _, [] => none
  | escaped, c :: rest =>
      if isNewline c then none
      else if !escaped && c == quote then some ([c], rest)
      else (quoteEnd? quote (!escaped && c == '\\') rest).map fun result => (c :: result.1, result.2)

def run (kind : TokenKind) (member : Char → Bool) (input : List Char) : Lexeme :=
  ⟨kind, input.takeWhile member, input.dropWhile member, .gap⟩

-- A word is a keyword if it spells one, unless a dot follows: then it is the name of a table or a
-- schema.
def word (input : List Char) : Lexeme :=
  let text := input.takeWhile isWordChar
  let rest := input.dropWhile isWordChar
  if rest.head? = some '.' then ⟨.identifier, text, rest, .chain⟩
  else if (Keyword.ofString? (String.ofList text)).isSome then ⟨.keyword, text, rest, .gap⟩
  else ⟨.identifier, text, rest, .gap⟩

def number (input : List Char) : Except LexError Lexeme :=
  let result := NumberPart.start.split input
  match result.2.head? with
  | none => .ok ⟨.number, result.1, result.2, .gap⟩
  | some c =>
      if isWordChar c then .error (.badNumber (String.ofList (result.1 ++ [c])))
      else .ok ⟨.number, result.1, result.2, .gap⟩

-- What follows `/*`. The star of the opening is not the star of the closing.
def blockComment (body : List Char) : Except LexError Lexeme :=
  match commentEnd? body with
  | none => .error .unterminatedComment
  | some (text, rest) => .ok ⟨.multiLineComment, '/' :: '*' :: text, rest, .gap⟩

def quoted (quote : Char) (body : List Char) : Except LexError Lexeme :=
  match quoteEnd? quote false body with
  | none => .error .unterminatedString
  | some (text, rest) => .ok ⟨.string, quote :: text, rest, .gap⟩

def backticked (body : List Char) : Except LexError Lexeme :=
  let text := body.takeWhile isWordChar
  match body.dropWhile isWordChar with
  | [] => .error .unterminatedBacktick
  | c :: rest =>
      if c = '`' then .ok ⟨.backtickedIdentifier, '`' :: text ++ ['`'], rest, .gap⟩
      else .error .unterminatedBacktick

-- The lexeme at the start of a text that does not start with a blank. Comments go before
-- operators, and digits before words.
def read : List Char → Except LexError Lexeme
  | [] => .ok ⟨.endOfInput, [], [], .finished⟩
  | c :: rest =>
      if c = '-' ∧ rest.head? = some '-' then .ok (run .singleLineComment (fun d => !isNewline d) (c :: rest))
      else if c = '/' ∧ rest.head? = some '*' then blockComment rest.tail
      else
        match punctuation? c with
        | some kind => .ok ⟨kind, [c], rest, .gap⟩
        | none =>
            if c = '`' then backticked rest
            else if c = '"' ∨ c = '\'' then quoted c rest
            else if isOperatorChar c then .ok (run .operator isOperatorChar (c :: rest))
            else if c.isDigit then number (c :: rest)
            else if isWordChar c then .ok (word (c :: rest))
            else .error (.unrecognized c)

def readDotted? : List Char → Option Lexeme
  | [] => none
  | c :: rest =>
      if c = '.' then some ⟨.dot, [c], rest, .chain⟩
      else if isWordChar c then some (word (c :: rest))
      else none

theorem comment_end_append (input text rest : List Char) (found : commentEnd? input = some (text, rest)) :
    text ++ rest = input := by
  induction input generalizing text rest with
  | nil => simp [commentEnd?] at found
  | cons c tail ih =>
      by_cases closing : c = '*' ∧ tail.head? = some '/'
      · rw [commentEnd?, if_pos closing] at found
        obtain ⟨rfl, rfl⟩ := Prod.mk.inj (Option.some.inj found)
        cases tail with
        | nil => simp at closing
        | cons d after =>
            have slash : d = '/' := by simpa using closing.2
            simp [closing.1, slash]
      · rw [commentEnd?, if_neg closing] at found
        obtain ⟨result, inner, same⟩ := Option.map_eq_some_iff.mp found
        obtain ⟨rfl, rfl⟩ := Prod.mk.inj same
        simp [ih result.1 result.2 inner]

theorem quote_end_append (quote : Char) (escaped : Bool) (input text rest : List Char)
    (found : quoteEnd? quote escaped input = some (text, rest)) : text ++ rest = input := by
  induction input generalizing escaped text rest with
  | nil => simp [quoteEnd?] at found
  | cons c tail ih =>
      rw [quoteEnd?] at found
      split at found
      · contradiction
      · split at found
        · obtain ⟨rfl, rfl⟩ := Prod.mk.inj (Option.some.inj found)
          rfl
        · obtain ⟨result, inner, same⟩ := Option.map_eq_some_iff.mp found
          obtain ⟨rfl, rfl⟩ := Prod.mk.inj same
          simp [ih _ result.1 result.2 inner]

theorem run_append (kind : TokenKind) (member : Char → Bool) (input : List Char) :
    (run kind member input).text ++ (run kind member input).rest = input :=
  List.takeWhile_append_dropWhile

theorem word_text (input : List Char) : (word input).text = input.takeWhile isWordChar := by
  simp only [word]
  split
  · rfl
  · split <;> rfl

theorem word_rest (input : List Char) : (word input).rest = input.dropWhile isWordChar := by
  simp only [word]
  split
  · rfl
  · split <;> rfl

theorem word_append (input : List Char) : (word input).text ++ (word input).rest = input := by
  rw [word_text, word_rest]
  exact List.takeWhile_append_dropWhile

theorem take_while_ne_nil (member : Char → Bool) (c : Char) (rest : List Char) (holds : member c = true) :
    (c :: rest).takeWhile member ≠ [] := by
  simp [holds]

theorem number_text_ne_nil (c : Char) (rest : List Char) (digit : c.isDigit = true) :
    (NumberPart.start.split (c :: rest)).1 ≠ [] := by
  by_cases zero : c = '0'
  · simp [NumberPart.split, NumberPart.next?, zero]
  · simp [NumberPart.split, NumberPart.next?, zero, digit]

end Lexeme

end SqlOutline
