/-!
# Expressions and programs

A program is a list of definitions followed by the expression whose value is
the result. Literals keep their text until they are evaluated, and groups are
kept as written. The rendered form of a program puts parentheses around every
operation.

## Implementation notes

Rendering calls itself for the parts of what is rendered, so the calls that are under
way at once are as many as the tree is deep, and a chain of operations is as deep as
it is long. Where an interpreter allows only so many of them, rendering fails: this is
`renderWithin`, with the number as its argument. The text itself is `render`.
-/

namespace LineCalc

/-- The four operations. -/
inductive Operator where
  | add
  | sub
  | mul
  | div
deriving Repr, DecidableEq

namespace Operator

/-- The sign of an operation. -/
def symbol : Operator → String
  | add => "+"
  | sub => "-"
  | mul => "*"
  | div => "/"

/-- Every operation. -/
def all : List Operator := [add, sub, mul, div]

/-- The operation with a given sign. -/
def ofSymbol? (text : String) : Option Operator := all.find? fun op => op.symbol = text

@[simp] theorem ofSymbol?_symbol (op : Operator) : ofSymbol? op.symbol = some op := by
  cases op <;> decide

end Operator

/-- An expression as it was written. -/
inductive Expr where
  | literal (text : String)
  | reference (name : String)
  | group (inner : Expr)
  | binary (op : Operator) (left right : Expr)
deriving Repr, DecidableEq

namespace Expr

/-- Whether an expression is an operation, which is rendered with parentheses. -/
def isBinary : Expr → Bool
  | binary _ _ _ => true
  | _ => false

/-- The fully parenthesised form. A group around an operation adds nothing to
the parentheses of the operation. -/
def render : Expr → String
  | literal text => text
  | reference name => name
  | group inner => if inner.isBinary then inner.render else "(" ++ inner.render ++ ")"
  | binary op left right =>
      "(" ++ left.render ++ " " ++ op.symbol ++ " " ++ right.render ++ ")"

/-- The rendered form, if at most `limit` calls may be under way at once. The calls for
the parts are made while the call for the whole is under way. -/
def renderWithin : Nat → Expr → Option String
  | 0, _ => none
  | _ + 1, literal text => some text
  | _ + 1, reference name => some name
  | limit + 1, group inner =>
      match inner.renderWithin limit with
      | some text => some (if inner.isBinary then text else "(" ++ text ++ ")")
      | none => none
  | limit + 1, binary op left right =>
      match left.renderWithin limit, right.renderWithin limit with
      | some a, some b => some ("(" ++ a ++ " " ++ op.symbol ++ " " ++ b ++ ")")
      | _, _ => none

end Expr

/-- A name and the expression whose value it is bound to. -/
structure Definition where
  name : String
  value : Expr
deriving Repr, DecidableEq

/-- The rendered form of a definition. -/
def Definition.render (definition : Definition) : String :=
  "def " ++ definition.name ++ " = " ++ definition.value.render ++ ";"

/-- The rendered form of a definition, if at most `limit` calls may be under way at once. -/
def Definition.renderWithin : Nat → Definition → Option String
  | 0, _ => none
  | limit + 1, definition =>
      match definition.value.renderWithin limit with
      | some text => some ("def " ++ definition.name ++ " = " ++ text ++ ";")
      | none => none

/-- Definitions in order, and the expression that gives the result. -/
structure Program where
  definitions : List Definition
  result : Expr
deriving Repr, DecidableEq

/-- The rendered form of a program, its parts separated by single spaces. -/
def Program.render (program : Program) : String :=
  program.definitions.foldr (fun definition rest => definition.render ++ " " ++ rest)
    program.result.render

/-- The rendered form of a program, if at most `limit` calls may be under way at once. -/
def Program.renderWithin : Nat → Program → Option String
  | 0, _ => none
  | limit + 1, program =>
      program.definitions.foldr
        (fun definition rest =>
          match definition.renderWithin limit, rest with
          | some text, some more => some (text ++ " " ++ more)
          | _, _ => none)
        (program.result.renderWithin limit)

end LineCalc
