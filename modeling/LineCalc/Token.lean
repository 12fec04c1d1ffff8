import LineCalc.Text.Quoted

/-!
# Tokens

A token is a piece of a line with its kind, its exact text, and the offset of
its first character. A line ends with an empty token of its own kind.
-/

namespace LineCalc

/-- What a token stands for in the grammar. -/
inductive TokenKind where
  | number
  | ident
  | define
  | equal
  | semicolon
  | plus
  | minus
  | star
  | slash
  | lparen
  | rparen
  | eof
deriving Repr, DecidableEq

namespace TokenKind

/-- The name under which a kind is displayed. -/
def name : TokenKind → String
  | number => "number"
  | ident => "ident"
  | define => "def"
  | equal => "equal"
  | semicolon => "semicolon"
  | plus => "plus"
  | minus => "minus"
  | star => "star"
  | slash => "slash"
  | lparen => "lparen"
  | rparen => "rparen"
  | eof => "eof"

/-- Every kind of token. -/
def all : List TokenKind :=
  [number, ident, define, equal, semicolon, plus, minus, star, slash, lparen, rparen, eof]

theorem mem_all (kind : TokenKind) : kind ∈ all := by
  cases kind <;> decide

/-- The kind with a given name. -/
def ofName? (text : String) : Option TokenKind := all.find? fun kind => kind.name = text

end TokenKind

/-- A token with its exact text and its offset. Offsets count characters; a
token that does not come from a line may have any offset. -/
structure Token where
  kind : TokenKind
  text : String
  pos : Int
deriving Repr, DecidableEq

namespace Token

/-- The token that ends the input at an offset. -/
def endAt (pos : Int) : Token := ⟨.eof, "", pos⟩

/-- A token shown with its parts. -/
def describe (token : Token) : String :=
  "Token(" ++ token.kind.name ++ ", " ++ Text.quote token.text ++ ", pos=" ++
    toString token.pos ++ ")"

end Token

end LineCalc
