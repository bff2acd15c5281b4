import ScopeScript.Source.Location

/-!
# Tokens

The units of a source text. Operators are told from punctuation because the parser treats all
of them alike; the lexeme of a string is what stands between its quotes.
-/

namespace ScopeScript

/-- The kinds of tokens. -/
inductive TokenKind where
  | number
  | string
  | name
  | operator
  | leftParen
  | rightParen
  | leftBrace
  | rightBrace
  | comma
  | colon
  | semicolon
  | equal
  deriving Repr, DecidableEq

namespace TokenKind

/-- The kinds with one spelling of one character. -/
def ofPunctuation? : Char → Option TokenKind
  | '(' => some leftParen
  | ')' => some rightParen
  | '\x7b' => some leftBrace
  | '\x7d' => some rightBrace
  | ',' => some comma
  | ':' => some colon
  | ';' => some semicolon
  | '=' => some equal
  | _ => none

/-- The name under which a kind is shown. -/
def label : TokenKind → String
  | number => "NUMBER"
  | string => "STRING"
  | name => "NAME"
  | operator => "OPERATOR"
  | leftParen => "LPAR"
  | rightParen => "RPAR"
  | leftBrace => "LBRACE"
  | rightBrace => "RBRACE"
  | comma => "COMMA"
  | colon => "COLON"
  | semicolon => "SEMI"
  | equal => "EQUAL"

end TokenKind

/-- A token, with the place of its raw text. -/
structure Token where
  kind : TokenKind
  lexeme : String
  span : Span
  deriving Repr, DecidableEq

namespace Token

/-- The token as it is shown in listings. -/
def text (t : Token) : String := s!"{t.kind.label}('{t.lexeme}')"

/-- The token as error messages quote it: a string in double quotes, others as they are. -/
def quoted (t : Token) : String :=
  match t.kind with
  | .string => s!"\"{t.lexeme}\""
  | _ => t.lexeme

end Token

end ScopeScript
