import SqlOutline.Keyword.Lookup
import SqlOutline.Text.Quoted

set_option autoImplicit false

namespace SqlOutline

inductive TokenKind where
  | error
  | endOfInput
  | singleLineComment
  | multiLineComment
  | keyword
  | identifier
  | backtickedIdentifier
  | operator
  | leftParen
  | rightParen
  | comma
  | dot
  | statementEnd
  | number
  | string
deriving DecidableEq

namespace TokenKind

def all : List TokenKind :=
  [.error, .endOfInput, .singleLineComment, .multiLineComment, .keyword, .identifier, .backtickedIdentifier,
   .operator, .leftParen, .rightParen, .comma, .dot, .statementEnd, .number, .string]

def name : TokenKind → String
  | .error => "Error"
  | .endOfInput => "EndOfInput"
  | .singleLineComment => "SingleLineComment"
  | .multiLineComment => "MultiLineComment"
  | .keyword => "Keyword"
  | .identifier => "Identifier"
  | .backtickedIdentifier => "BacktickedIdentifier"
  | .operator => "Operator"
  | .leftParen => "LeftParen"
  | .rightParen => "RightParen"
  | .comma => "Comma"
  | .dot => "Dot"
  | .statementEnd => "StatementEnd"
  | .number => "Number"
  | .string => "String"

def ofName? (name : String) : Option TokenKind :=
  all.find? fun kind => kind.name == name

theorem of_name_name (kind : TokenKind) : ofName? kind.name = some kind := by
  cases kind <;> decide

def description : TokenKind → String
  | .error => "error"
  | .endOfInput => "end of input"
  | .singleLineComment => "single-line comment"
  | .multiLineComment => "multi-line comment"
  | .keyword => "keyword"
  | .identifier => "identifier"
  | .backtickedIdentifier => "backticked identifier"
  | .operator => "operator"
  | .leftParen => "left paren"
  | .rightParen => "right paren"
  | .comma => "comma"
  | .dot => "dot"
  | .statementEnd => "statement end"
  | .number => "number"
  | .string => "string"

def isComment : TokenKind → Bool
  | .singleLineComment | .multiLineComment => true
  | _ => false

def isName : TokenKind → Bool
  | .identifier | .backtickedIdentifier => true
  | _ => false

theorem is_comment_iff (kind : TokenKind) :
    kind.isComment = true ↔ kind = .singleLineComment ∨ kind = .multiLineComment := by
  cases kind <;> simp [isComment]

theorem is_name_iff (kind : TokenKind) : kind.isName = true ↔ kind = .identifier ∨ kind = .backtickedIdentifier := by
  cases kind <;> simp [isName]

theorem not_error_of_name (kind : TokenKind) (isName : kind.isName = true) : kind ≠ .error := by
  rintro rfl
  contradiction

end TokenKind

-- A token of the text. For the kind `error` the text is the message instead, and the line is the
-- one where reading stopped; otherwise it is the line on which the token ends, counted from 1.
structure Token where
  kind : TokenKind
  text : String
  line : Nat
deriving DecidableEq

namespace Token

def keyword? (token : Token) : Option Keyword :=
  match token.kind with
  | .keyword => Keyword.ofString? token.text
  | _ => none

def isKeyword (token : Token) (keyword : Keyword) : Bool :=
  token.keyword? == some keyword

def isOneOf (token : Token) (keywords : List Keyword) : Bool :=
  match token.keyword? with
  | some keyword => keywords.contains keyword
  | none => false

theorem is_keyword_iff (token : Token) (keyword : Keyword) :
    token.isKeyword keyword = true ↔ token.keyword? = some keyword := by
  simp [isKeyword]

theorem kind_of_keyword (token : Token) (keyword : Keyword) (spelled : token.keyword? = some keyword) :
    token.kind = .keyword := by
  unfold keyword? at spelled
  split at spelled
  · assumption
  · contradiction

theorem is_one_of_iff (token : Token) (keywords : List Keyword) :
    token.isOneOf keywords = true ↔ ∃ keyword ∈ keywords, token.keyword? = some keyword := by
  simp only [isOneOf]
  cases token.keyword? <;> simp

-- The token in a line of a listing: its text in quotes, cut after ten characters.
def summary (token : Token) : String :=
  match token.kind with
  | .endOfInput => "EOF"
  | .error => token.text
  | _ =>
      if token.text.length > 10 then
        quotedText (String.ofList (token.text.toList.take 10)) ++ "..."
      else quotedText token.text

end Token

end SqlOutline
