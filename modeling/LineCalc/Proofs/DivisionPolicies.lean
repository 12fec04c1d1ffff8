import LineCalc.Proofs.Scoping

/-!
# The two division policies

The policies differ in one place only: what a division by a zero is. An
evaluation in which such a division has a value therefore shows what the other
policy makes of the same program. Its operations are listed in the order in which
they are applied, up to the first failure. If one of them divides by zero, the
first of these is where the other policy stops, and if none does, both policies
have the same result.

## Implementation notes

The list of operations is read off the trees and not off the stack machine, so
the order of evaluation is part of what is proved about the machine.
-/

namespace LineCalc

namespace Binary64

open Float.Model

/-- Only a zero compares equal to a zero. -/
theorem exists_zero_of_compare {u : UnpackedFloat}
    (h : u.compare (.zero .positive) = some .eq) : ∃ s, u = .zero s := by
  cases u with
  | infinity s => cases s <;> cases h
  | notANumber => cases h
  | zero s => exact ⟨s, rfl⟩
  | finite s m e hm => cases s <;> cases h

/-- The bits of a zero are zero, apart from that of its sign. -/
theorem toNat_of_unpack_zero {b : BitVec Format.binary64.numBits} {s : UnpackedFloat.Sign}
    (h : UnpackedFloat.unpack Format.binary64 b = .zero s) :
    b.toNat = 0 ∨ b.toNat = 0x8000000000000000 := by
  -- Of the branches that unpack the bits, only one makes a zero.
  have hbits : UnpackedFloat.unpackExponent b = 0#11 ∧ UnpackedFloat.unpackMantissa b = 0#52 := by
    unfold UnpackedFloat.unpack at h
    by_cases hones : UnpackedFloat.unpackExponent b = -1#11
    · rw [if_pos hones] at h
      split at h <;> cases h
    · rw [if_neg hones] at h
      by_cases hexponent : UnpackedFloat.unpackExponent b = 0#11
      · rw [if_pos hexponent] at h
        by_cases hmantissa : UnpackedFloat.unpackMantissa b = 0#52
        · exact ⟨hexponent, hmantissa⟩
        · rw [dif_neg hmantissa] at h
          cases h
      · rw [if_neg hexponent] at h
        cases h
  have hexponent : b.toNat / 0x10000000000000 % 0x800 = 0 := by
    simpa [UnpackedFloat.unpackExponent, Nat.shiftRight_eq_div_pow] using
      congrArg BitVec.toNat hbits.1
  have hmantissa : b.toNat % 0x10000000000000 = 0 := by
    simpa [UnpackedFloat.unpackMantissa] using congrArg BitVec.toNat hbits.2
  have hlt : b.toNat < 0x10000000000000000 := b.isLt
  omega

theorem eq_of_toBits {x y : Float} (h : x.toBits = y.toBits) : x = y := by
  obtain ⟨⟨b, _⟩⟩ := x
  obtain ⟨⟨c, _⟩⟩ := y
  cases h
  rfl

/-- The numbers that equal zero are the zeros of either sign. -/
theorem beq_zero_iff (x : Float) : (x == 0.0) = true ↔ x = 0.0 ∨ x = -0.0 := by
  constructor
  · intro h
    obtain ⟨s, hs⟩ := exists_zero_of_compare (eq_of_beq h)
    rcases toNat_of_unpack_zero hs with hbits | hbits
    · left
      apply eq_of_toBits
      exact UInt64.toNat_inj.mp hbits
    · right
      apply eq_of_toBits
      exact UInt64.toNat_inj.mp hbits
  · rintro (rfl | rfl)
    · decide
    · decide

end Binary64

variable {ε α β : Type}

/-- An operation and the two values it is applied to. -/
structure Operation (α : Type) where
  op : Operator
  left : α
  right : α
deriving DecidableEq

namespace Operation

/-- A division by a zero of either sign. -/
def DividesByZero (o : Operation Float) : Prop := o.op = .div ∧ (o.right = 0.0 ∨ o.right = -0.0)

/-- Whether an operation is a division by a zero, as the policies test it. -/
def dividesByZero (o : Operation Float) : Bool := o.op = .div && o.right == 0.0

theorem dividesByZero_iff {o : Operation Float} : o.dividesByZero = true ↔ o.DividesByZero := by
  simp only [dividesByZero, DividesByZero, Bool.and_eq_true, decide_eq_true_eq,
    Binary64.beq_zero_iff]

end Operation

/-- What comes after a part of an evaluation: nothing, unless the part has a value. -/
def following (part : Except ε α) (more : α → List β) : List β :=
  match part with
  | .error _ => []
  | .ok x => more x

/-- The operations that are applied while an expression is evaluated: those of the
left operand, those of the right operand, and then its own, up to the first failure. -/
def Expr.operations (S : Semantics ε α) : Expr → List (Operation α)
  | literal _ => []
  | reference _ => []
  | group inner => inner.operations S
  | binary op left right =>
      left.operations S ++ following (left.value S) fun x =>
        right.operations S ++ following (right.value S) fun y => [⟨op, x, y⟩]

namespace Program

/-- The operations of definitions in order and of a final expression, with names
already bound. -/
def operationsAfter (policy : DivisionPolicy) (bindings : Bindings Float) :
    List Definition → Expr → List (Operation Float)
  | [], e => e.operations (bindings.semantics policy)
  | d :: ds, e =>
      d.value.operations (bindings.semantics policy) ++
        following (d.value.value (bindings.semantics policy)) fun x =>
          operationsAfter policy (bindings.insert d.name x) ds e

/-- The operations that are applied while a program is evaluated, up to the first
failure. -/
def operations (policy : DivisionPolicy) (p : Program) : List (Operation Float) :=
  operationsAfter policy .empty p.definitions p.result

/-- If every division has a value, the evaluation of the program reaches a division
by zero, and the first one has this dividend. -/
def FirstZeroDivision (p : Program) (dividend : Float) : Prop :=
  ∃ before o after, p.operations .ieee = before ++ o :: after ∧ o.DividesByZero ∧
    o.left = dividend ∧ ∀ a ∈ before, ¬ a.DividesByZero

end Program

/-- A result, unless an operation before it divides by zero. -/
def guarded (os : List (Operation Float)) (result : Except EvalError α) : Except EvalError α :=
  match os.find? Operation.dividesByZero with
  | some o => .error (.divisionByZero o.left)
  | none => result

/-- Two parts of an evaluation that are guarded one after the other are guarded by
the operations of both. -/
theorem guarded_bind (os : List (Operation Float)) (part : Except EvalError α)
    (more : α → List (Operation Float)) (next : α → Except EvalError β) :
    (guarded os part >>= fun x => guarded (more x) (next x)) =
      guarded (os ++ following part more) (part >>= next) := by
  unfold guarded
  rw [List.find?_append]
  cases os.find? Operation.dividesByZero with
  | some o => rfl
  | none => cases part <;> rfl

theorem Expr.value_binary (S : Semantics ε α) (op : Operator) (left right : Expr) :
    (binary op left right).value S =
      left.value S >>= fun x => right.value S >>= fun y => S.apply op x y := by
  rw [value]
  cases left.value S with
  | error x => rfl
  | ok x => cases right.value S <;> rfl

/-- An operation is the same under both policies, unless it divides by zero. -/
theorem Operator.apply_error_eq (op : Operator) (x y : Float) :
    op.apply .error x y = guarded [⟨op, x, y⟩] (op.apply .ieee x y) := by
  cases op with
  | div =>
      simp only [apply, DivisionPolicy.divide, guarded, Operation.dividesByZero, List.find?_cons,
        List.find?_nil, decide_true, Bool.true_and]
      cases y == 0.0 <;> rfl
  | _ => rfl

/-- The policies agree on an expression up to its first division by zero. -/
theorem Expr.value_error_eq (bindings : Bindings Float) (e : Expr) :
    e.value (bindings.semantics .error) =
      guarded (e.operations (bindings.semantics .ieee)) (e.value (bindings.semantics .ieee)) := by
  induction e with
  | literal text => rfl
  | reference name => rfl
  | group inner ih => exact ih
  | binary op left right ihl ihr =>
      -- Each of the three parts is guarded, so the whole is guarded by all their operations.
      have hoperation (x y : Float) : (bindings.semantics .error).apply op x y =
          guarded [⟨op, x, y⟩] ((bindings.semantics .ieee).apply op x y) :=
        op.apply_error_eq x y
      simp only [value_binary, operations, ihl, ihr, hoperation, guarded_bind]

namespace Program

theorem evaluateAfter_error_eq (bindings : Bindings Float) (ds : List Definition) (e : Expr) :
    evaluateAfter .error bindings ds e =
      guarded (operationsAfter .ieee bindings ds e) (evaluateAfter .ieee bindings ds e) := by
  induction ds generalizing bindings with
  | nil =>
      simp only [evaluateAfter_nil, operationsAfter]
      exact e.value_error_eq bindings
  | cons d ds ih =>
      simp only [evaluateAfter_cons, operationsAfter, Expr.value_error_eq, ih, guarded_bind]

/-- The policies agree on a program up to its first division by zero. -/
theorem evaluate_error_eq (p : Program) :
    p.evaluate .error = guarded (p.operations .ieee) (p.evaluate .ieee) :=
  evaluateAfter_error_eq .empty p.definitions p.result

end Program

/-- No division by zero is reported. -/
def NeverDivides (result : Except EvalError α) : Prop :=
  ∀ dividend, result ≠ .error (.divisionByZero dividend)

theorem NeverDivides.bind {part : Except EvalError α} {next : α → Except EvalError β}
    (h : NeverDivides part) (hnext : ∀ x, NeverDivides (next x)) :
    NeverDivides (part >>= next) := by
  cases part with
  | error x =>
      intro dividend heq
      cases heq
      exact h dividend rfl
  | ok x => exact hnext x

theorem Expr.neverDivides_value (bindings : Bindings Float) (e : Expr) :
    NeverDivides (e.value (bindings.semantics .ieee)) := by
  induction e with
  | literal text =>
      simp only [value, Bindings.semantics, literalValue]
      split <;> simp [NeverDivides]
  | reference name =>
      simp only [value, Bindings.semantics, Bindings.lookup]
      split <;> simp [NeverDivides]
  | group inner ih => exact ih
  | binary op left right ihl ihr =>
      rw [value_binary]
      refine ihl.bind fun x => ihr.bind fun y => ?_
      obtain ⟨z, hz⟩ := op.apply_ieee x y
      simp [NeverDivides, Bindings.semantics, hz]

namespace Program

theorem neverDivides_evaluateAfter (bindings : Bindings Float) (ds : List Definition) (e : Expr) :
    NeverDivides (evaluateAfter .ieee bindings ds e) := by
  induction ds generalizing bindings with
  | nil =>
      rw [evaluateAfter_nil]
      exact e.neverDivides_value bindings
  | cons d ds ih =>
      rw [evaluateAfter_cons]
      exact (d.value.neverDivides_value bindings).bind fun x => ih _

theorem neverDivides_evaluate (p : Program) : NeverDivides (p.evaluate .ieee) :=
  neverDivides_evaluateAfter .empty p.definitions p.result

theorem firstZeroDivision_iff {p : Program} {dividend : Float} :
    p.FirstZeroDivision dividend ↔
      ∃ o, (p.operations .ieee).find? Operation.dividesByZero = some o ∧ o.left = dividend := by
  simp only [FirstZeroDivision, List.find?_eq_some_iff_append, Operation.dividesByZero_iff,
    Bool.not_eq_true', ← Bool.not_eq_true]
  constructor
  · rintro ⟨before, o, after, heq, hzero, hleft, hbefore⟩
    exact ⟨o, ⟨hzero, before, after, heq, hbefore⟩, hleft⟩
  · rintro ⟨o, ⟨hzero, before, after, heq, hbefore⟩, hleft⟩
    exact ⟨before, o, after, heq, hzero, hleft, hbefore⟩

/-- A value under the policy that reports divisions by zero is the value under the
other policy, and so is every other error. Under the other policy no division by
zero is reported. A division by zero is reported with a dividend exactly if the
evaluation under the other policy reaches a division by zero, and the first one
has this dividend. -/
theorem evaluate_error_simulates_ieee (p : Program) :
    (∀ x, p.evaluate .error = .ok x → p.evaluate .ieee = .ok x) ∧
    (∀ cause, p.evaluate .error = .error cause → (∀ dividend, cause ≠ .divisionByZero dividend) →
      p.evaluate .ieee = .error cause) ∧
    (∀ dividend, p.evaluate .ieee ≠ .error (.divisionByZero dividend)) ∧
    ∀ dividend, p.evaluate .error = .error (.divisionByZero dividend) ↔
      p.FirstZeroDivision dividend := by
  have hnever := p.neverDivides_evaluate
  simp only [firstZeroDivision_iff, p.evaluate_error_eq, guarded]
  cases (p.operations .ieee).find? Operation.dividesByZero with
  | none =>
      refine ⟨fun x hx => hx, fun cause hcause _ => hcause, hnever, fun dividend => ?_⟩
      exact iff_of_false (hnever dividend) (by simp)
  | some o =>
      refine ⟨by simp, ?_, hnever, by simp⟩
      intro cause hcause hother
      cases hcause
      exact absurd rfl (hother o.left)

-- A division by zero counts even if nothing uses its value, and comes before the unbound name.
example :
    operations .ieee
      ⟨[⟨"a", .binary .div (.literal "1") (.binary .sub (.literal "2") (.literal "2"))⟩],
        .reference "b"⟩ =
      [⟨.sub, 2.0, 2.0⟩, ⟨.div, 1.0, 0.0⟩] := by decide +kernel

end Program

end LineCalc
