import LineCalc.Bindings
import LineCalc.Decimal.Literal
import LineCalc.Division
import LineCalc.Expr.Polish
import LineCalc.Machine

/-!
# Evaluating programs

Definitions are evaluated in order, each with the names bound before it, and the
result with all of them. Expressions are evaluated by the stack machine.
-/

namespace LineCalc

/-- Apply an operation to two numbers. -/
def Operator.apply (policy : DivisionPolicy) (op : Operator) (left right : Float) :
    Except EvalError Float :=
  match op with
  | .add => .ok (left + right)
  | .sub => .ok (left - right)
  | .mul => .ok (left * right)
  | .div => policy.divide left right

/-- Apply the operation with a given sign to two numbers. -/
def applySymbol (policy : DivisionPolicy) (symbol : String) (left right : Float) :
    Except EvalError Float :=
  match Operator.ofSymbol? symbol with
  | some op => op.apply policy left right
  | none => .error (.unknownOperator symbol)

/-- The number a literal stands for. -/
def literalValue (text : String) : Except EvalError Float :=
  match Decimal.Literal.read? text with
  | some x => .ok x
  | none => .error (.invalidNumber text)

namespace Bindings

/-- The number a name is bound to. -/
def lookup (bindings : Bindings Float) (name : String) : Except EvalError Float :=
  match bindings.get? name with
  | some x => .ok x
  | none => .error (.undefinedName name)

theorem lookup_insert (bindings : Bindings Float) (name other : String) (x : Float) :
    (bindings.insert name x).lookup other =
      if name = other then .ok x else bindings.lookup other := by
  simp only [lookup, get?_insert]
  by_cases h : name = other <;> simp [h]

/-- The meaning of leaves and operations under a policy and bindings. -/
def semantics (policy : DivisionPolicy) (bindings : Bindings Float) : Semantics EvalError Float where
  literal := literalValue
  reference := bindings.lookup
  apply := Operator.apply policy

end Bindings

/-- The error that a fault of the machine amounts to. -/
def EvalError.ofFault : Machine.Fault EvalError → EvalError
  | .raised e => e
  | .exhausted => .exhausted

/-- Evaluate an expression with the given bindings. -/
def Expr.evaluate (policy : DivisionPolicy) (bindings : Bindings Float) (e : Expr) :
    Except EvalError Float :=
  match Machine.eval (bindings.semantics policy) e with
  | .ok x => .ok x
  | .error fault => .error (.ofFault fault)

/-- Evaluate what a list of items stands for; only an expression has a value. -/
def Polish.Node.evaluate (policy : DivisionPolicy) (bindings : Bindings Float) :
    Polish.Node → Except EvalError Float
  | .tree e => e.evaluate policy bindings
  | .foreign sort => .error (.unknownNode sort.name)

namespace Definition

/-- Bind the names of definitions in order, starting from the given bindings. -/
def bindAll (policy : DivisionPolicy) (bindings : Bindings Float) :
    List Definition → Except EvalError (Bindings Float)
  | [] => .ok bindings
  | definition :: rest =>
      match definition.value.evaluate policy bindings with
      | .error e => .error e
      | .ok x => bindAll policy (bindings.insert definition.name x) rest

/-- The names that are bound again while definitions are evaluated, in order,
up to the first definition that fails. -/
def shadowed (policy : DivisionPolicy) (bindings : Bindings Float) :
    List Definition → List String
  | [] => []
  | definition :: rest =>
      match definition.value.evaluate policy bindings with
      | .error _ => []
      | .ok x =>
          let later := shadowed policy (bindings.insert definition.name x) rest
          if bindings.contains definition.name then definition.name :: later else later

end Definition

/-- Evaluate a program to a number. -/
def Program.evaluate (policy : DivisionPolicy) (program : Program) : Except EvalError Float :=
  match Definition.bindAll policy .empty program.definitions with
  | .error e => .error e
  | .ok bindings => program.result.evaluate policy bindings

end LineCalc
