import LineCalc.Error
import LineCalc.Expr

/-!
# Reading programs

    program     → definition* expression
    definition  → "def" name "=" expression ";"
    expression  → term (("+" | "-") term)*
    term        → primary (("*" | "/") primary)*
    primary     → number | name | "(" expression ")"

Both levels of operators group to the left. At most `groupLimit` groups may be
open at once. The end of the token list counts as the end of the input, and so
does a token of the end kind; nothing behind it is read.

## Implementation notes

A reader returns the tokens it leaves together with the fact that they are
fewer than those it was given, so the loops over operators and definitions
recurse on the number of tokens. Groups recurse on the number of groups that
may still be opened, which bounds the depth of the recursion by itself.
-/

namespace LineCalc

namespace Parser

/-- The number of groups that may be open at once. -/
def groupLimit : Nat := 100

/-- Fewer than `n` tokens. -/
abbrev Rest (n : Nat) := { ts : List Token // ts.length < n }

/-- Reads a value off the front of a token list and leaves a shorter list. -/
abbrev Reader (α : Type) := (ts : List Token) → Except ParseError (α × Rest ts.length)

/-- The offset at which a token list ends. -/
def finishOf (ts : List Token) : Int :=
  match ts.getLast? with
  | some token => token.pos + token.text.length
  | none => 0

/-- The token to be read next; past the last one it is the end of the input. -/
def current (finish : Int) : List Token → Token
  | [] => Token.endAt finish
  | token :: _ => token

@[simp] theorem current_nil (finish : Int) : current finish [] = Token.endAt finish := rfl

@[simp] theorem current_cons (finish : Int) (token : Token) (rest : List Token) :
    current finish (token :: rest) = token := rfl

/-- Read a token of the given kind, if it comes next. -/
def take? (kind : TokenKind) : (ts : List Token) → Option (Token × Rest ts.length)
  | [] => none
  | token :: rest => if token.kind = kind then some (token, ⟨rest, by simp⟩) else none

/-- The operations of the outer level. -/
def sumOperator? : TokenKind → Option Operator
  | .plus => some .add
  | .minus => some .sub
  | _ => none

/-- The operations of the inner level, which bind more tightly. -/
def productOperator? : TokenKind → Option Operator
  | .star => some .mul
  | .slash => some .div
  | _ => none

/-- Read operators of one level and their right operands as long as they come,
grouping to the left. -/
def chain (operator? : TokenKind → Option Operator) (operand : Reader Expr) {n : Nat}
    (left : Expr) (ts : List Token) (h : ts.length < n) : Except ParseError (Expr × Rest n) :=
  match ts, h with
  | [], h => .ok (left, ⟨[], h⟩)
  | token :: rest, h =>
      match operator? token.kind with
      | none => .ok (left, ⟨token :: rest, h⟩)
      | some op =>
          match operand rest with
          | .error e => .error e
          | .ok (right, ⟨unread, h'⟩) =>
              chain operator? operand (.binary op left right) unread
                (by simp only [List.length_cons] at h; omega)
termination_by ts.length
decreasing_by simp only [List.length_cons]; omega

/-- Read one operand, and then the operators of one level. -/
def level (operator? : TokenKind → Option Operator) (operand : Reader Expr) : Reader Expr :=
  fun ts =>
    match operand ts with
    | .error e => .error e
    | .ok (left, rest) => chain operator? operand left rest.1 rest.2

/-- Read an expression whose operands are read by `primary`. -/
def expressionWith (primary : Reader Expr) : Reader Expr :=
  level sumOperator? (level productOperator? primary)

/-- Read an operand. What stands inside a group is read by `inner?`, which is
missing if no more groups may be opened. -/
def primaryWith (finish : Int) (inner? : Option (Reader Expr)) : Reader Expr
  | [] => .error (.unexpectedEnd finish)
  | token :: rest =>
      match token.kind with
      | .eof => .error (.unexpectedEnd token.pos)
      | .number => .ok (.literal token.text, ⟨rest, by simp⟩)
      | .ident => .ok (.reference token.text, ⟨rest, by simp⟩)
      | .lparen =>
          match inner? with
          | none => .error (.nestingTooDeep token groupLimit)
          | some inner =>
              match inner rest with
              | .error e => .error e
              | .ok (e, ⟨unread, h⟩) =>
                  match take? .rparen unread with
                  | none => .error (.unclosedGroup (current finish unread) token.pos)
                  | some (_, ⟨after, h'⟩) =>
                      .ok (.group e, ⟨after, by simp only [List.length_cons]; omega⟩)
      | _ => .error (.unexpectedToken token .operand)

/-- Read an operand in which at most `groups` more groups may be open at once. -/
def primary (finish : Int) : (groups : Nat) → Reader Expr
  | 0 => primaryWith finish none
  | groups + 1 => primaryWith finish (some (expressionWith (primary finish groups)))

/-- Read an expression in which at most `groups` more groups may be open at once. -/
def expression (finish : Int) (groups : Nat) : Reader Expr :=
  expressionWith (primary finish groups)

/-- Read the part of a definition after its first word. In its value at most
`groups` more groups may be open at once. -/
def definition (finish : Int) (groups : Nat) : Reader Definition := fun ts =>
  match take? .ident ts with
  | none => .error (.malformedStatement (current finish ts) .name)
  | some (name, ⟨afterName, h₁⟩) =>
      match take? .equal afterName with
      | none => .error (.malformedStatement (current finish afterName) (.equal name.text))
      | some (_, ⟨afterEqual, h₂⟩) =>
          match expression finish groups afterEqual with
          | .error e => .error e
          | .ok (value, ⟨afterValue, h₃⟩) =>
              match take? .semicolon afterValue with
              | none =>
                  .error (.malformedStatement (current finish afterValue) (.semicolon name.text))
              | some (_, ⟨rest, h₄⟩) => .ok (⟨name.text, value⟩, ⟨rest, by omega⟩)

/-- The complete definitions at the front of a token list, and either the tokens
behind them or the error that the next definition meets. -/
def definitions (finish : Int) (ts : List Token) :
    List Definition × Except ParseError (List Token) :=
  match ts with
  | [] => ([], .ok [])
  | token :: rest =>
      if token.kind = .define then
        match definition finish groupLimit rest with
        | .error e => ([], .error e)
        | .ok (first, ⟨unread, _⟩) =>
            let more := definitions finish unread
            (first :: more.1, more.2)
      else ([], .ok (token :: rest))
termination_by ts.length
decreasing_by simp only [List.length_cons]; omega

/-- Read the final expression of a program, behind which the input must end. -/
def result (finish : Int) (ts : List Token) : Except ParseError Expr :=
  match expression finish groupLimit ts with
  | .error e => .error e
  | .ok (e, ⟨rest, _⟩) =>
      let next := current finish rest
      if next.kind = .eof then .ok e else .error (.unexpectedToken next .afterExpression)

end Parser

/-- The program a token list stands for. -/
def Program.ofTokens (ts : List Token) : Except ParseError Program :=
  let finish := Parser.finishOf ts
  let (definitions, rest) := Parser.definitions finish ts
  match rest with
  | .error e => .error e
  | .ok rest =>
      match Parser.result finish rest with
      | .error e => .error e
      | .ok e => .ok ⟨definitions, e⟩

/-- The definitions that are read in full, even if the program is not. -/
def Program.completeDefinitions (ts : List Token) : List Definition :=
  (Parser.definitions (Parser.finishOf ts) ts).1

end LineCalc
