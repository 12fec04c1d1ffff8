import LineCalc.Expr

/-!
# Expressions in reverse Polish notation

An expression is written as a list in which every node follows its operands.
Reading such a list uses a stack of trees. A list may also hold a value that is
no expression; it can stand alone, where evaluating it is an error, but no node
can have it as an operand.
-/

namespace LineCalc

/-- The sort of a value that is no expression. -/
inductive ForeignSort where
  | integer
  | fraction
  | text
  | boolean
  | null
  | list
  | object
deriving Repr, DecidableEq

/-- The name of a sort in messages. -/
def ForeignSort.name : ForeignSort → String
  | integer => "int"
  | fraction => "float"
  | text => "str"
  | boolean => "bool"
  | null => "NoneType"
  | list => "list"
  | object => "dict"

namespace Polish

/-- One item of the notation. An item whose content does not fit its node is
`malformed`. -/
inductive Item where
  | literal (text : String)
  | reference (name : String)
  | group
  | binary (op : Operator)
  | foreign (sort : ForeignSort)
  | malformed
deriving Repr, DecidableEq

/-- A finished part of the tree, or a value that is no expression. -/
inductive Node where
  | tree (e : Expr)
  | foreign (sort : ForeignSort)
deriving Repr, DecidableEq

/-- Do one item on the stack of finished parts. -/
def step (item : Item) (stack : List Node) : Option (List Node) :=
  match item, stack with
  | .literal text, stack => some (.tree (.literal text) :: stack)
  | .reference name, stack => some (.tree (.reference name) :: stack)
  | .foreign sort, stack => some (.foreign sort :: stack)
  | .group, .tree inner :: stack => some (.tree (.group inner) :: stack)
  | .binary op, .tree right :: .tree left :: stack =>
      some (.tree (.binary op left right) :: stack)
  | _, _ => none

/-- Do all items in order. -/
def run : List Item → List Node → Option (List Node)
  | [], stack => some stack
  | item :: items, stack =>
      match step item stack with
      | none => none
      | some stack => run items stack

/-- The tree or the foreign value that a list of items stands for. -/
def read? (items : List Item) : Option Node :=
  match run items [] with
  | some (node :: _) => some node
  | _ => none

/-- The expression that a list of items stands for. -/
def readExpr? (items : List Item) : Option Expr :=
  match read? items with
  | some (.tree e) => some e
  | _ => none

end Polish

/-- An expression in reverse Polish notation, in front of further items. -/
def Expr.polishBefore (items : List Polish.Item) : Expr → List Polish.Item
  | .literal text => .literal text :: items
  | .reference name => .reference name :: items
  | .group inner => inner.polishBefore (.group :: items)
  | .binary op left right => left.polishBefore (right.polishBefore (.binary op :: items))

/-- An expression in reverse Polish notation. -/
def Expr.polish (e : Expr) : List Polish.Item := e.polishBefore []

namespace Polish

/-- Running the items of an expression pushes the expression. -/
theorem run_polishBefore (e : Expr) (items : List Item) (stack : List Node) :
    run (e.polishBefore items) stack = run items (.tree e :: stack) := by
  induction e generalizing items stack with
  | literal text => rfl
  | reference name => rfl
  | group inner ih => rw [Expr.polishBefore, ih, run, step]
  | binary op left right ihl ihr => rw [Expr.polishBefore, ihl, ihr, run, step]

/-- Reading inverts writing. -/
@[simp] theorem readExpr?_polish (e : Expr) : readExpr? e.polish = some e := by
  simp [readExpr?, read?, Expr.polish, run_polishBefore, run]

end Polish

end LineCalc
