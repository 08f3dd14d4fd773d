import SqlOutline.Token

set_option autoImplicit false

namespace SqlOutline

inductive ParseError where
  | lex (line : Nat) (message : String)
  | noToken
  | unexpectedToken (state : String) (kind : TokenKind) (text : String) (line : Nat)
  | unsupportedKeyword (keyword : String) (line : Nat)
  | ambiguousIdentifier (name label ident : String)
  | invalidValue (what : String)
  | expected (wanted found : String) (line : Nat)
  | multiple (errors : List ParseError)

namespace ParseError

def unexpected (state : String) (token : Token) : ParseError :=
  .unexpectedToken state token.kind token.text token.line

def unsupported (token : Token) : ParseError :=
  .unsupportedKeyword token.text token.line

def notFound (wanted : String) (token : Token) : ParseError :=
  .expected wanted token.text token.line

def errors : ParseError → List ParseError
  | .multiple errors => errors
  | error => [error]

def join (first second : ParseError) : ParseError :=
  .multiple (first.errors ++ second.errors)

def atLine (line : Nat) (message : String) : String :=
  "line " ++ toString line ++ ": " ++ message

mutual
def message : ParseError → String
  | .lex line message => atLine line message
  | .noToken => "no token found when one was expected"
  | .unexpectedToken state kind text line =>
      atLine line ("unsupported token " ++ kind.description ++ " '" ++ text ++ "' found within " ++ state)
  | .unsupportedKeyword keyword line => atLine line ("unsupported keyword '" ++ keyword ++ "'")
  | .ambiguousIdentifier name label ident =>
      "ambiguous identifier '" ++ ident ++ "', table name and alias are already set (" ++ name ++ " " ++ label ++ ")"
  | .invalidValue what => "invalid " ++ what
  | .expected wanted found line => atLine line ("expected " ++ wanted ++ ", found '" ++ found ++ "'")
  | .multiple errors => "\n".intercalate (messages errors)
def messages : List ParseError → List String
  | [] => []
  | error :: rest => error.message :: messages rest
end

end ParseError

end SqlOutline
