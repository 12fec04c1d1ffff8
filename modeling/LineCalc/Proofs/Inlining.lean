import LineCalc.Proofs.DivisionPolicies

/-!
# Inlining definitions

A definition is a name for an expression. Replacing a name by a group around what
it stands for changes no value, so a program can be evaluated without bindings: each
of its expressions is inlined at its place, where a name stands for the latest
definition complete before it. The program has a value exactly if all inlined
expressions have one, those of definitions that nothing refers to included, and the
value is that of its inlined result.

## Implementation notes

The inlined value of a definition is inlined at the place of the definition, not at
the place of the name, so a name may be defined again in terms of itself. This is why
the definitions before a place are looked through from the latest on, each with the
remaining ones as its own place.
-/

namespace LineCalc

variable {ε α : Type}

/-- Replace every name that has a replacement by a group around it. -/
def Expr.substitute (replacement? : String → Option Expr) : Expr → Expr
  | literal text => literal text
  | reference name =>
      match replacement? name with
      | some e => group e
      | none => reference name
  | group inner => group (inner.substitute replacement?)
  | binary op left right =>
      binary op (left.substitute replacement?) (right.substitute replacement?)

/-- The inlined value of the latest definition of a name, where the definitions are
listed from the latest on. -/
def Definition.inlined? : List Definition → String → Option Expr
  | [], _ => none
  | d :: earlier, name =>
      if d.name = name then some (d.value.substitute (inlined? earlier))
      else inlined? earlier name

/-- An expression that stands behind definitions, with all its names inlined. -/
def Expr.inlined (before : List Definition) (e : Expr) : Expr :=
  e.substitute (Definition.inlined? before.reverse)

/-- A name stands for the latest definition before it, or for nothing. -/
theorem Expr.inlined_reference_append (before : List Definition) (d : Definition)
    (name : String) :
    (reference name).inlined (before ++ [d]) =
      if d.name = name then group (d.value.inlined before)
      else (reference name).inlined before := by
  by_cases h : d.name = name <;> simp [inlined, substitute, Definition.inlined?, h]

-- In `def x = 1; def x = x + 1; x` the second definition refers to the first.
example :
    (Expr.reference "x").inlined
      [⟨"x", .literal "1"⟩, ⟨"x", .binary .add (.reference "x") (.literal "1")⟩] =
      .group (.binary .add (.group (.literal "1")) (.literal "1")) := by decide

/-- An expression with names replaced has the value it has where every name stands for
the value of its replacement. -/
theorem Expr.value_substitute (S : Semantics ε α) (replacement? : String → Option Expr)
    (e : Expr) :
    (e.substitute replacement?).value S =
      e.value { S with
        reference := fun name => ((reference name).substitute replacement?).value S } := by
  induction e with
  | literal text => rfl
  | reference name => rfl
  | group inner ih => exact ih
  | binary op left right ihl ihr => simp only [substitute, value, ihl, ihr]

namespace Bindings

variable {policy : DivisionPolicy} {bindings : Bindings Float} {before : List Definition}

/-- Behind the definitions, every name has in the bindings the value that its inlined
form has without bindings. -/
def Represents (policy : DivisionPolicy) (bindings : Bindings Float)
    (before : List Definition) : Prop :=
  ∀ name, bindings.lookup name =
    ((Expr.reference name).inlined before).value (empty.semantics policy)

theorem Represents.value_eq (h : bindings.Represents policy before) (e : Expr) :
    e.value (bindings.semantics policy) =
      (e.inlined before).value (empty.semantics policy) := by
  have hlookup : bindings.lookup = fun name =>
      ((Expr.reference name).inlined before).value (empty.semantics policy) := by
    ext1 name
    exact h name
  calc
    e.value (bindings.semantics policy) =
        e.value { empty.semantics policy with reference := bindings.lookup } := rfl
    _ = (e.inlined before).value (empty.semantics policy) := by
      rw [hlookup]
      exact (e.value_substitute _ _).symm

theorem represents_empty (policy : DivisionPolicy) : empty.Represents policy [] := by
  intro name
  rfl

/-- A definition binds its name to the value of its inlined form. -/
theorem Represents.insert (h : bindings.Represents policy before) {d : Definition} {x : Float}
    (hx : d.value.value (bindings.semantics policy) = .ok x) :
    (bindings.insert d.name x).Represents policy (before ++ [d]) := by
  intro name
  rw [lookup_insert, Expr.inlined_reference_append]
  by_cases hname : d.name = name
  · rw [if_pos hname, if_pos hname, Expr.value, ← h.value_eq, hx]
  · rw [if_neg hname, if_neg hname]
    exact h name

end Bindings

/-- What holds at every place of a list holds at its first place and at the others. -/
theorem forall_place_cons {β : Type} {a : β} {as : List β} {P : List β → β → Prop} :
    (∀ before b after, a :: as = before ++ b :: after → P before b) ↔
      P [] a ∧ ∀ before b after, as = before ++ b :: after → P (a :: before) b := by
  constructor
  · intro h
    refine ⟨h [] a as rfl, ?_⟩
    rintro before b after rfl
    exact h (a :: before) b after rfl
  · rintro ⟨hfirst, hmore⟩ before b after heq
    rcases List.cons_eq_append_iff.mp heq with ⟨rfl, hcons⟩ | ⟨before, rfl, has⟩
    · cases hcons
      exact hfirst
    · exact hmore before b after has

namespace Program

variable {policy : DivisionPolicy}

/-- Behind other definitions, definitions and a final expression have values exactly if
their inlined forms have them. -/
theorem evaluateAfter_eq_ok_iff {bindings : Bindings Float} {earlier : List Definition}
    (h : bindings.Represents policy earlier) (ds : List Definition) (e : Expr) (x : Float) :
    evaluateAfter policy bindings ds e = .ok x ↔
      (∀ before d after, ds = before ++ d :: after →
        ∃ y, (d.value.inlined (earlier ++ before)).value (Bindings.empty.semantics policy) =
          .ok y) ∧
      (e.inlined (earlier ++ ds)).value (Bindings.empty.semantics policy) = .ok x := by
  induction ds generalizing bindings earlier with
  | nil =>
      rw [evaluateAfter_nil, h.value_eq, List.append_nil]
      simp
  | cons d ds ih =>
      rw [evaluateAfter_cons, forall_place_cons, List.append_nil, ← h.value_eq]
      cases hd : d.value.value (bindings.semantics policy) with
      | error c =>
          constructor
          · rintro ⟨⟩
          · rintro ⟨⟨⟨y, ⟨⟩⟩, -⟩, -⟩
      | ok y =>
          -- The value is bound, and the rest is evaluated behind one more definition.
          have hmore := ih (h.insert hd)
          simp only [List.append_assoc, List.singleton_append] at hmore
          constructor
          · intro hx
            obtain ⟨hvalues, hresult⟩ := hmore.mp hx
            exact ⟨⟨⟨y, rfl⟩, hvalues⟩, hresult⟩
          · rintro ⟨⟨-, hvalues⟩, hresult⟩
            exact hmore.mpr ⟨hvalues, hresult⟩

/-- A program has a value exactly if the inlined value of each of its definitions has
one, evaluated alone, and its inlined result has that value. -/
theorem evaluate_eq_ok_iff_inlined (policy : DivisionPolicy) (p : Program) (x : Float) :
    p.evaluate policy = .ok x ↔
      (∀ before d after, p.definitions = before ++ d :: after →
        ∃ y, (Program.mk [] (d.value.inlined before)).evaluate policy = .ok y) ∧
      (Program.mk [] (p.result.inlined p.definitions)).evaluate policy = .ok x := by
  have halone (e : Expr) : (Program.mk [] e).evaluate policy =
      e.value (Bindings.empty.semantics policy) := evaluateAfter_nil policy .empty e
  simp only [halone]
  exact evaluateAfter_eq_ok_iff (Bindings.represents_empty policy) p.definitions p.result x

end Program

end LineCalc
