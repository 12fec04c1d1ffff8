import LineCalc.Error

/-!
# Division by zero

Dividing by a zero of either sign is an error, or gives the infinity or the
undefined number of binary64 arithmetic; a policy decides which. All other
divisions are the same under both policies.
-/

namespace LineCalc

/-- What dividing by zero gives. -/
inductive DivisionPolicy where
  | error
  | ieee
deriving Repr, DecidableEq

namespace DivisionPolicy

/-- The name of a policy. -/
def name : DivisionPolicy → String
  | error => "error"
  | ieee => "ieee"

/-- The policy with a given name. -/
def ofName? (text : String) : Option DivisionPolicy :=
  [error, ieee].find? fun policy => policy.name = text

@[simp] theorem ofName?_name (policy : DivisionPolicy) : ofName? policy.name = some policy := by
  cases policy <;> decide

/-- Divide under a policy. -/
def divide (policy : DivisionPolicy) (left right : Float) : Except EvalError Float :=
  match policy with
  | ieee => .ok (left / right)
  | error => if right == 0.0 then .error (.divisionByZero left) else .ok (left / right)

end DivisionPolicy

end LineCalc
