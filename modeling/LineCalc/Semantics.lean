import LineCalc.Expr

/-!
# The value of an expression

An expression has a value as soon as its leaves and the four operations have
one. A semantics supplies these; any of them may fail. The left operand is
evaluated first, then the right one, then the operation is applied, and the
first failure is the failure of the whole expression.
-/

namespace LineCalc

/-- What literals, names, and operations stand for. -/
structure Semantics (ε α : Type) where
  literal : String → Except ε α
  reference : String → Except ε α
  apply : Operator → α → α → Except ε α

variable {ε α : Type}

/-- The value of an expression, by recursion on its structure. -/
def Expr.value (S : Semantics ε α) : Expr → Except ε α
  | .literal text => S.literal text
  | .reference name => S.reference name
  | .group inner => inner.value S
  | .binary op left right =>
      match left.value S with
      | .error e => .error e
      | .ok x =>
          match right.value S with
          | .error e => .error e
          | .ok y => S.apply op x y

end LineCalc
