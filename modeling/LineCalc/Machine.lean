import LineCalc.Semantics

/-!
# A stack machine for expressions

The machine keeps a list of tasks and a stack of values. Visiting a leaf pushes
its value, visiting an operation schedules its operands before the operation,
and applying an operation replaces the two topmost values, of which the right
operand is the upper one. The depth of an expression therefore costs no
recursion.

## Implementation notes

An operation that finds fewer than two values stops the machine with a fault of
its own, so a run never makes up a value.
-/

namespace LineCalc.Machine

variable {ε α : Type}

/-- A step that is still to be done. -/
inductive Task where
  | visit (e : Expr)
  | apply (op : Operator)
deriving Repr, DecidableEq

/-- The tasks in order, and the values with the latest on top. -/
structure State (α : Type) where
  tasks : List Task
  values : List α

/-- Why the machine stops without a value. -/
inductive Fault (ε : Type) where
  /-- A leaf or an operation failed. -/
  | raised (e : ε)
  /-- A value was needed that is not there. -/
  | exhausted

/-- Push the value of a leaf or an operation, or stop with its failure. -/
def push (tasks : List Task) (values : List α) : Except ε α → Except (Fault ε) (State α)
  | .error e => .error (.raised e)
  | .ok v => .ok ⟨tasks, v :: values⟩

/-- Do one task. -/
def step (S : Semantics ε α) (task : Task) (tasks : List Task) (values : List α) :
    Except (Fault ε) (State α) :=
  match task with
  | .visit (.literal text) => push tasks values (S.literal text)
  | .visit (.reference name) => push tasks values (S.reference name)
  | .visit (.group inner) => .ok ⟨.visit inner :: tasks, values⟩
  | .visit (.binary op left right) =>
      .ok ⟨.visit left :: .visit right :: .apply op :: tasks, values⟩
  | .apply op =>
      match values with
      | right :: left :: values => push tasks values (S.apply op left right)
      | _ => .error .exhausted

/-- The number of tasks an expression gives rise to. -/
def cost : Expr → Nat
  | .literal _ => 1
  | .reference _ => 1
  | .group inner => cost inner + 1
  | .binary _ left right => cost left + cost right + 2

/-- The number of steps a task still takes. -/
def Task.cost : Task → Nat
  | .visit e => Machine.cost e
  | .apply _ => 1

/-- The number of steps a list of tasks still takes. -/
def totalCost : List Task → Nat
  | [] => 0
  | task :: tasks => task.cost + totalCost tasks

theorem tasks_of_push {tasks : List Task} {values : List α} {r : Except ε α} {s : State α}
    (h : push tasks values r = .ok s) : s.tasks = tasks := by
  cases r with
  | error e => simp [push] at h
  | ok v =>
      simp only [push, Except.ok.injEq] at h
      simp [← h]

/-- Every step leaves fewer steps to be done. -/
theorem totalCost_of_step {S : Semantics ε α} {task : Task} {tasks : List Task}
    {values : List α} {s : State α} (h : step S task tasks values = .ok s) :
    totalCost s.tasks < totalCost (task :: tasks) := by
  match task with
  | .visit (.literal text) => simp [tasks_of_push h, totalCost, Task.cost, cost]
  | .visit (.reference name) => simp [tasks_of_push h, totalCost, Task.cost, cost]
  | .visit (.group inner) =>
      simp only [step, Except.ok.injEq] at h
      simp only [← h, totalCost, Task.cost, cost]
      omega
  | .visit (.binary op left right) =>
      simp only [step, Except.ok.injEq] at h
      simp only [← h, totalCost, Task.cost, cost]
      omega
  | .apply op =>
      simp only [step] at h
      split at h
      · simp [tasks_of_push h, totalCost, Task.cost]
      · simp at h

/-- Do all tasks and return the topmost value. -/
def run (S : Semantics ε α) (tasks : List Task) (values : List α) : Except (Fault ε) α :=
  match tasks with
  | [] =>
      match values with
      | v :: _ => .ok v
      | [] => .error .exhausted
  | task :: tasks =>
      match h : step S task tasks values with
      | .error fault => .error fault
      | .ok s =>
          have := totalCost_of_step h
          run S s.tasks s.values
termination_by totalCost tasks

/-- Without tasks the topmost value is the result. -/
@[simp] theorem run_nil (S : Semantics ε α) (v : α) (values : List α) :
    run S [] (v :: values) = .ok v := by
  rw [run]

/-- A run does its first task and goes on with what the task leaves. -/
theorem run_cons (S : Semantics ε α) (task : Task) (tasks : List Task) (values : List α) :
    run S (task :: tasks) values =
      match step S task tasks values with
      | .error fault => .error fault
      | .ok s => run S s.tasks s.values := by
  rw [run]
  split <;> simp_all

/-- Run the machine on one expression. -/
def eval (S : Semantics ε α) (e : Expr) : Except (Fault ε) α := run S [.visit e] []

end LineCalc.Machine
