import LineCalc.Token
import LineCalc.Decimal.Layout

/-!
# Errors

Each stage of reading and evaluating a line has its own causes of failure. A
cause holds what its message is made of; the wording is given once, by the
`message` function of the stage. The first cause found ends the line.
-/

namespace LineCalc

/-- Why a text cannot be split into tokens. -/
inductive LexError where
  /-- A character that no token may hold or begin with. -/
  | unrecognized (text : String) (pos : Int)
  | described (message : String)
deriving Repr, DecidableEq

/-- Where an unexpected token stands. -/
inductive Place where
  /-- An operand should stand here. -/
  | operand
  /-- The program is already complete. -/
  | afterExpression
  | described (message : String)
deriving Repr, DecidableEq

/-- The place described by a message; without a message it is that of an operand. -/
def Place.ofMessage : Option String → Place
  | none => .operand
  | some "" => .operand
  | some message => .described message

/-- What a definition still needs. -/
inductive Expectation where
  | name
  | equal (bound : String)
  | semicolon (bound : String)
  | described (text : String)
deriving Repr, DecidableEq

/-- Why a sequence of tokens is not a program. -/
inductive ParseError where
  | unexpectedEnd (pos : Int)
  | unexpectedToken (token : Token) (place : Place)
  | malformedStatement (token : Token) (expected : Expectation)
  | unclosedGroup (token : Token) (openPos : Int)
  | nestingTooDeep (token : Token) (limit : Int)
  | described (message : String) (pos : Int)
deriving Repr, DecidableEq

/-- Why a program has no value. -/
inductive EvalError where
  | invalidNumber (text : String)
  | undefinedName (name : String)
  | divisionByZero (dividend : Float)
  /-- Something that is not an expression stands for one. -/
  | unknownNode (type : String)
  | unknownOperator (symbol : String)
  /-- An operator finds fewer than two operands. -/
  | exhausted
  | described (message : String)
deriving Repr

/-- Why a line has no value. -/
inductive Error where
  | lex (cause : LexError)
  | parse (cause : ParseError)
  | eval (cause : EvalError)
  | described (message : String)
deriving Repr

namespace LexError

/-- The name of the kind of a cause. -/
def kind : LexError → String
  | unrecognized _ _ => "UnrecognizedCharacter"
  | described _ => "Error"

/-- The wording of a cause. -/
def message : LexError → String
  | unrecognized text pos =>
      "Unrecognized character " ++ Text.quote text ++ " at position " ++ toString pos
  | described message => message

/-- The offset a cause points at. -/
def pos? : LexError → Option Int
  | unrecognized _ pos => some pos
  | described _ => none

end LexError

namespace Expectation

/-- The wording of what is missing. -/
def text : Expectation → String
  | name => "a name after 'def'"
  | equal bound => "'=' after " ++ Text.quote bound
  | semicolon bound => "';' to end the binding of " ++ Text.quote bound
  | described text => text

end Expectation

namespace ParseError

/-- A token as it was found; a token without text reads as the end of input. -/
def found (token : Token) : String :=
  if token.text.isEmpty then "end of input" else Text.quote token.text

/-- The name of the kind of a cause. -/
def kind : ParseError → String
  | unexpectedEnd _ => "UnexpectedEndOfInput"
  | unexpectedToken _ _ => "UnexpectedToken"
  | malformedStatement _ _ => "MalformedStatement"
  | unclosedGroup _ _ => "UnclosedGroup"
  | nestingTooDeep _ _ => "NestingTooDeep"
  | described _ _ => "Error"

/-- The wording of a cause. -/
def message : ParseError → String
  | unexpectedEnd _ => "Unexpected end of input"
  | unexpectedToken token .operand => "Unexpected token " ++ Text.quote token.text
  | unexpectedToken token .afterExpression =>
      "Unexpected token after expression: " ++ Text.quote token.text
  | unexpectedToken _ (.described message) => message
  | malformedStatement token expected =>
      "Malformed statement: expected " ++ expected.text ++ ", found " ++ found token
  | unclosedGroup token openPos =>
      "Unclosed group: '(' at position " ++ toString openPos ++ " needs ')', found " ++ found token
  | nestingTooDeep _ limit => "Groups nested deeper than " ++ toString limit ++ " levels"
  | described message _ => message

/-- The offset a cause points at. -/
def pos : ParseError → Int
  | unexpectedEnd pos => pos
  | unexpectedToken token _ => token.pos
  | malformedStatement token _ => token.pos
  | unclosedGroup token _ => token.pos
  | nestingTooDeep token _ => token.pos
  | described _ pos => pos

/-- The token a cause points at. -/
def token? : ParseError → Option Token
  | unexpectedToken token _ => some token
  | malformedStatement token _ => some token
  | unclosedGroup token _ => some token
  | nestingTooDeep token _ => some token
  | unexpectedEnd _ => none
  | described _ _ => none

end ParseError

namespace EvalError

/-- The name of the kind of a cause. -/
def kind : EvalError → String
  | invalidNumber _ => "InvalidNumber"
  | undefinedName _ => "UndefinedName"
  | divisionByZero _ => "DivisionByZero"
  | unknownNode _ => "Error"
  | unknownOperator _ => "Error"
  | exhausted => "Error"
  | described _ => "Error"

/-- The wording of a cause. -/
def message : EvalError → String
  | invalidNumber text => "Invalid number: " ++ Text.quote text
  | undefinedName name => "Undefined name: " ++ Text.quote name
  | divisionByZero dividend => "Division by zero: " ++ Decimal.text dividend ++ " / 0"
  | unknownNode type => "Unknown expression type: " ++ type
  | unknownOperator symbol => "Unknown binary op: " ++ symbol
  | exhausted => "Operand missing"
  | described message => message

end EvalError

/-- A fact about an error that is displayed beside its message. -/
inductive Attribute where
  | text (value : String)
  | offset (value : Int)
deriving Repr, DecidableEq

namespace Error

/-- The name of the stage that failed. -/
def stage : Error → String
  | lex _ => "lex"
  | parse _ => "parse"
  | eval _ => "eval"
  | described _ => "pocketcalc"

/-- The name of the kind of an error. -/
def kind : Error → String
  | lex cause => cause.kind
  | parse cause => cause.kind
  | eval cause => cause.kind
  | described _ => "Error"

/-- The wording of an error. -/
def message : Error → String
  | lex cause => cause.message
  | parse cause => cause.message
  | eval cause => cause.message
  | described message => message

/-- An error as one line, with the stage that failed. -/
def summary (error : Error) : String := error.stage ++ " error: " ++ error.message

/-- The offset an error points at; evaluation errors point nowhere. -/
def pos? : Error → Option Int
  | lex cause => cause.pos?
  | parse cause => some cause.pos
  | eval _ => none
  | described _ => none

/-- The token an error points at. -/
def token? : Error → Option Token
  | parse cause => cause.token?
  | _ => none

/-- What an error holds beside its message, position, and token. -/
def attributes : Error → List (String × Attribute)
  | lex (.unrecognized text _) => [("char", .text text)]
  | parse (.malformedStatement _ expected) => [("expected", .text expected.text)]
  | parse (.unclosedGroup _ openPos) => [("open_pos", .offset openPos)]
  | parse (.nestingTooDeep _ limit) => [("limit", .offset limit)]
  | eval (.invalidNumber text) => [("text", .text text)]
  | eval (.undefinedName name) => [("name", .text name)]
  | eval (.divisionByZero dividend) => [("dividend", .text (Decimal.text dividend))]
  | _ => []

end Error

end LineCalc
