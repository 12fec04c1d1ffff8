import LineCalc.Evaluation

/-!
# The stack machine computes the value of an expression

For every semantics, the machine returns the value that an expression has by
recursion on its structure, or fails with the same error. A state that a run
reaches has one part of the expression in view: either the part is about to be
visited, or its value has just been pushed. What waits for the value of the part
determines all other tasks and values, so an operation always finds its two
operands, and the last value is the only one.

## Implementation notes

The relation `Awaits` follows the path from the whole expression to the part in
view. A left operand leaves its right neighbour among the tasks, and a right
operand finds the value of its left neighbour on the stack.
-/

namespace LineCalc

variable {ε α : Type}

/-- The parts of an expression, itself included. -/
inductive Expr.Part (root : Expr) : Expr → Prop
  | self : Part root root
  | inner {e : Expr} (h : Part root (.group e)) : Part root e
  | left {op : Operator} {l r : Expr} (h : Part root (.binary op l r)) : Part root l
  | right {op : Operator} {l r : Expr} (h : Part root (.binary op l r)) : Part root r

namespace Machine

/-- Visiting an expression pushes its value and goes on, or stops with its error. -/
theorem run_visit (S : Semantics ε α) (e : Expr) (tasks : List Task) (values : List α) :
    run S (.visit e :: tasks) values =
      match e.value S with
      | .error x => .error (.raised x)
      | .ok v => run S tasks (v :: values) := by
  induction e generalizing tasks values with
  | literal text =>
      rw [run_cons]
      simp only [step, Expr.value]
      cases S.literal text <;> rfl
  | reference name =>
      rw [run_cons]
      simp only [step, Expr.value]
      cases S.reference name <;> rfl
  | group inner ih =>
      rw [run_cons]
      simp only [step, Expr.value]
      exact ih tasks values
  | binary op l r ihl ihr =>
      rw [run_cons]
      simp only [step, Expr.value, ihl]
      cases l.value S with
      | error x => rfl
      | ok x =>
          simp only [ihr]
          cases r.value S with
          | error y => rfl
          | ok y =>
              simp only [run_cons, step]
              cases S.apply op x y <;> rfl

theorem eval_eq_value (S : Semantics ε α) (e : Expr) :
    eval S e = (e.value S).mapError .raised := by
  rw [eval, run_visit]
  cases e.value S with
  | error x => rfl
  | ok v => exact run_nil S v []

/-- The states of a run on an expression, with the number of steps before them. -/
inductive Reaches (S : Semantics ε α) (root : Expr) : Nat → State α → Prop
  | start : Reaches S root 0 ⟨[.visit root], []⟩
  | step {n : Nat} {task : Task} {tasks : List Task} {values : List α} {s : State α}
      (h : Reaches S root n ⟨task :: tasks, values⟩)
      (hs : Machine.step S task tasks values = .ok s) : Reaches S root (n + 1) s

/-- The value of a part is awaited by these tasks, with these values below it. -/
inductive Awaits (S : Semantics ε α) (root : Expr) : Expr → List Task → List α → Prop
  | root : Awaits S root root [] []
  | inner {e : Expr} {tasks : List Task} {values : List α}
      (h : Awaits S root (.group e) tasks values) : Awaits S root e tasks values
  | left {op : Operator} {l r : Expr} {tasks : List Task} {values : List α}
      (h : Awaits S root (.binary op l r) tasks values) :
      Awaits S root l (.visit r :: .apply op :: tasks) values
  | right {op : Operator} {l r : Expr} {tasks : List Task} {values : List α} {x : α}
      (h : Awaits S root (.binary op l r) tasks values) (hl : l.value S = .ok x) :
      Awaits S root r (.apply op :: tasks) (x :: values)

theorem Awaits.part {S : Semantics ε α} {root e : Expr} {tasks : List Task} {values : List α}
    (h : Awaits S root e tasks values) : root.Part e := by
  induction h with
  | root => exact .self
  | inner _ ih => exact .inner ih
  | left _ ih => exact .left ih
  | right _ _ ih => exact .right ih

/-- What the machine has in view: a part to be visited, or the value of a part. -/
inductive InView (S : Semantics ε α) (root : Expr) : State α → Prop
  | visit {e : Expr} {tasks : List Task} {values : List α}
      (h : Awaits S root e tasks values) : InView S root ⟨.visit e :: tasks, values⟩
  | value {e : Expr} {tasks : List Task} {values : List α} {v : α}
      (h : Awaits S root e tasks values) (hv : e.value S = .ok v) :
      InView S root ⟨tasks, v :: values⟩

/-- Where a run goes on once the value of a part is known: nowhere, with the right
operand of an operation, or with the operation itself. -/
theorem Awaits.next {S : Semantics ε α} {root e : Expr} {tasks : List Task} {values : List α}
    {v : α} (h : Awaits S root e tasks values) (hv : e.value S = .ok v) :
    (tasks = [] ∧ values = [] ∧ root.value S = .ok v) ∨
    (∃ r op rest, tasks = .visit r :: .apply op :: rest ∧
      Awaits S root r (.apply op :: rest) (v :: values)) ∨
    (∃ op l r rest x below, tasks = .apply op :: rest ∧ values = x :: below ∧
      Awaits S root (.binary op l r) rest below ∧ l.value S = .ok x ∧ r.value S = .ok v) := by
  induction h with
  | root => exact Or.inl ⟨rfl, rfl, hv⟩
  | inner _ ih => exact ih hv
  | @left op l r tasks values h _ =>
      exact Or.inr (Or.inl ⟨r, op, tasks, rfl, .right h hv⟩)
  | @right op l r tasks values x h hl _ =>
      exact Or.inr (Or.inr ⟨op, l, r, tasks, x, values, rfl, rfl, h, hl, hv⟩)

/-- A leaf or an operation that succeeds pushes the value of its part. -/
theorem InView.of_push {S : Semantics ε α} {root e : Expr} {tasks : List Task}
    {values : List α} {s : State α} (h : Awaits S root e tasks values)
    (hs : push tasks values (e.value S) = .ok s) : InView S root s := by
  cases hv : e.value S with
  | error x =>
      rw [hv] at hs
      cases hs
  | ok v =>
      rw [hv] at hs
      cases hs
      exact .value h hv

theorem InView.step_visit {S : Semantics ε α} {root e : Expr} {tasks : List Task}
    {values : List α} {s : State α} (h : Awaits S root e tasks values)
    (hs : step S (.visit e) tasks values = .ok s) : InView S root s := by
  cases e with
  | literal text => exact .of_push h hs
  | reference name => exact .of_push h hs
  | group inner =>
      cases hs
      exact .visit (.inner h)
  | binary op l r =>
      cases hs
      exact .visit (.left h)

/-- Every step keeps one part in view. -/
theorem InView.step {S : Semantics ε α} {root : Expr} {task : Task} {tasks : List Task}
    {values : List α} {s : State α} (h : InView S root ⟨task :: tasks, values⟩)
    (hs : Machine.step S task tasks values = .ok s) : InView S root s := by
  cases h with
  | visit h => exact .step_visit h hs
  | @value e _ values v h hv =>
      rcases h.next hv with ⟨htasks, -, -⟩ | ⟨r, op, rest, htasks, hr⟩ |
        ⟨op, l, r, rest, x, below, htasks, rfl, hop, hl, hr⟩
      · cases htasks
      · cases htasks
        exact .step_visit hr hs
      · cases htasks
        have hvalue : (Expr.binary op l r).value S = S.apply op x v := by
          simp only [Expr.value, hl, hr]
        simp only [Machine.step, ← hvalue] at hs
        exact .of_push hop hs

/-- Every state of a run has one part in view. -/
theorem Reaches.inView {S : Semantics ε α} {root : Expr} {n : Nat} {s : State α}
    (h : Reaches S root n s) : InView S root s := by
  induction h with
  | start => exact .visit .root
  | step _ hs ih => exact ih.step hs

/-- A run never takes more steps than its expression gives rise to. -/
theorem Reaches.steps_le {S : Semantics ε α} {root : Expr} {n : Nat} {s : State α}
    (h : Reaches S root n s) : n + totalCost s.tasks ≤ cost root := by
  induction h with
  | start => simp [totalCost, Task.cost]
  | step _ hs ih =>
      have hlt := totalCost_of_step hs
      simp only at ih
      omega

/-- The rest of a run has the result of the whole run. -/
theorem Reaches.run_eq {S : Semantics ε α} {root : Expr} {n : Nat} {s : State α}
    (h : Reaches S root n s) : run S s.tasks s.values = eval S root := by
  induction h with
  | start => rfl
  | step _ hs ih =>
      rw [run_cons, hs] at ih
      exact ih

/-- The values on the stack fit the tasks. -/
structure WellStacked (S : Semantics ε α) (root : Expr) (s : State α) : Prop where
  /-- An operation finds its operands, the right one above the left one. -/
  operands : ∀ op tasks, s.tasks = .apply op :: tasks →
    ∃ l r x y below, root.Part (.binary op l r) ∧ l.value S = .ok x ∧ r.value S = .ok y ∧
      s.values = y :: x :: below
  /-- When no task is left, the value of the whole expression is the only one. -/
  final : s.tasks = [] → ∃ v, root.value S = .ok v ∧ s.values = [v]

theorem InView.wellStacked {S : Semantics ε α} {root : Expr} {s : State α}
    (h : InView S root s) : WellStacked S root s := by
  cases h with
  | visit h =>
      constructor
      · rintro op tasks ⟨⟩
      · rintro ⟨⟩
  | @value e tasks values v h hv =>
      rcases h.next hv with ⟨rfl, rfl, hroot⟩ | ⟨r, op, rest, rfl, -⟩ |
        ⟨op, l, r, rest, x, below, rfl, rfl, hop, hl, hr⟩
      · constructor
        · rintro op tasks ⟨⟩
        · intro _
          exact ⟨v, hroot, rfl⟩
      · constructor
        · rintro op tasks ⟨⟩
        · rintro ⟨⟩
      · constructor
        · rintro _ _ ⟨⟩
          exact ⟨l, r, x, v, below, hop.part, hl, hr, rfl⟩
        · rintro ⟨⟩

theorem evaluate_eq_value (policy : DivisionPolicy) (bindings : Bindings Float) (e : Expr) :
    e.evaluate policy bindings = e.value (bindings.semantics policy) := by
  rw [Expr.evaluate, eval_eq_value]
  cases e.value (bindings.semantics policy) <;> rfl

/-- The machine stops on every expression, within a number of steps fixed by the
expression, with its value by recursion or with the first error the recursion
meets; and in every state on the way the values fit the tasks. -/
theorem eval_refines_value (root : Expr) :
    (∀ (ε α : Type) (S : Semantics ε α),
      eval S root = (root.value S).mapError .raised ∧
      ∀ n s, Reaches S root n s →
        n ≤ cost root ∧ run S s.tasks s.values = eval S root ∧ WellStacked S root s) ∧
    ∀ policy bindings, root.evaluate policy bindings = root.value (bindings.semantics policy) := by
  constructor
  · intro ε α S
    refine ⟨eval_eq_value S root, ?_⟩
    intro n s h
    have hsteps := h.steps_le
    exact ⟨by omega, h.run_eq, h.inView.wellStacked⟩
  · intro policy bindings
    exact evaluate_eq_value policy bindings root

end Machine

end LineCalc
