import LineCalc.Proofs.Inlining

/-!
# Independent definitions

The value of an expression depends on the names it refers to and on no others, and
the order in which names were bound does not show. Two neighbouring definitions of
different names, neither of which refers to the other, can therefore change places.
Only if both of them fail does the order show, in which of the two errors comes out.
-/

namespace LineCalc

variable {policy : DivisionPolicy} {bindings other : Bindings Float}

/-- An expression refers to a name. -/
def Expr.Mentions (name : String) : Expr → Prop
  | literal _ => False
  | reference other => other = name
  | group inner => inner.Mentions name
  | binary _ left right => left.Mentions name ∨ right.Mentions name

/-- An expression has the same value wherever its names have the same values. -/
theorem Expr.value_congr {e : Expr}
    (h : ∀ name, e.Mentions name → bindings.lookup name = other.lookup name) :
    e.value (bindings.semantics policy) = e.value (other.semantics policy) := by
  induction e with
  | literal text => rfl
  | reference name => exact h name rfl
  | group inner ih => exact ih h
  | binary op left right ihl ihr =>
      have hleft := ihl fun name hname => h name (Or.inl hname)
      have hright := ihr fun name hname => h name (Or.inr hname)
      simp only [value_binary, hleft, hright]
      rfl

/-- A name that an expression does not refer to may be bound to anything. -/
theorem Expr.value_insert {e : Expr} {name : String} (h : ¬ e.Mentions name) (x : Float) :
    e.value ((bindings.insert name x).semantics policy) = e.value (bindings.semantics policy) := by
  apply value_congr
  intro n hn
  rw [Bindings.lookup_insert, if_neg]
  rintro rfl
  exact h hn

/-- Two names are bound in either order. -/
theorem Bindings.lookup_insert_comm {x y : String} (h : x ≠ y) (v w : Float) (name : String) :
    ((bindings.insert x v).insert y w).lookup name =
      ((bindings.insert y w).insert x v).lookup name := by
  simp only [lookup_insert]
  by_cases hx : x = name
  · have hy : y ≠ name := fun hy => h (hx.trans hy.symm)
    rw [if_neg hy, if_pos hx, if_pos hx]
  · rw [if_neg hx, if_neg hx]

namespace Program

/-- Bindings that cannot be told apart by looking names up give the same result. -/
theorem evaluateAfter_congr (h : ∀ name, bindings.lookup name = other.lookup name)
    (ds : List Definition) (e : Expr) :
    evaluateAfter policy bindings ds e = evaluateAfter policy other ds e := by
  induction ds generalizing bindings other with
  | nil =>
      rw [evaluateAfter_nil, evaluateAfter_nil]
      apply Expr.value_congr
      intro name _
      exact h name
  | cons d ds ih =>
      have hvalue : d.value.value (bindings.semantics policy) =
          d.value.value (other.semantics policy) := Expr.value_congr fun name _ => h name
      rw [evaluateAfter_cons, evaluateAfter_cons, hvalue]
      congr 1
      ext1 x
      apply ih
      intro name
      rw [Bindings.lookup_insert, Bindings.lookup_insert, h name]

theorem evaluateAfter_append (bindings : Bindings Float) (before ds : List Definition)
    (e : Expr) :
    evaluateAfter policy bindings (before ++ ds) e =
      Definition.bindAll policy bindings before >>= fun made => evaluateAfter policy made ds e := by
  induction before generalizing bindings with
  | nil => rfl
  | cons d before ih =>
      rw [List.cons_append, evaluateAfter_cons, Definition.bindAll, Machine.evaluate_eq_value]
      cases d.value.value (bindings.semantics policy) with
      | error c => rfl
      | ok x => exact ih _

/-- The second of two definitions does not need the first. -/
theorem evaluateAfter_pair {x y : String} {e₁ e₂ : Expr} (h : ¬ e₂.Mentions x)
    (bindings : Bindings Float) (ds : List Definition) (e : Expr) :
    evaluateAfter policy bindings (⟨x, e₁⟩ :: ⟨y, e₂⟩ :: ds) e =
      e₁.value (bindings.semantics policy) >>= fun v =>
        e₂.value (bindings.semantics policy) >>= fun w =>
          evaluateAfter policy ((bindings.insert x v).insert y w) ds e := by
  rw [evaluateAfter_cons]
  congr 1
  ext1 v
  rw [evaluateAfter_cons, Expr.value_insert h]

/-- Behind the definitions, both expressions fail with these errors. -/
def BothFail (policy : DivisionPolicy) (before : List Definition) (e₁ e₂ : Expr)
    (c₁ c₂ : EvalError) : Prop :=
  ∃ made, Definition.bindAll policy .empty before = .ok made ∧
    e₁.evaluate policy made = .error c₁ ∧ e₂.evaluate policy made = .error c₂

variable {before after : List Definition} {x y : String} {e₁ e₂ : Expr}

/-- Independent definitions are evaluated behind the same bindings, whichever comes
first, and the rest behind bindings that cannot be told apart. -/
theorem evaluateAfter_swap (hne : x ≠ y) (h₁ : ¬ e₁.Mentions y) (h₂ : ¬ e₂.Mentions x)
    (hfine : ∀ c₁ c₂, e₁.value (bindings.semantics policy) = .error c₁ →
      e₂.value (bindings.semantics policy) ≠ .error c₂) (e : Expr) :
    evaluateAfter policy bindings (⟨x, e₁⟩ :: ⟨y, e₂⟩ :: after) e =
      evaluateAfter policy bindings (⟨y, e₂⟩ :: ⟨x, e₁⟩ :: after) e := by
  rw [evaluateAfter_pair h₂, evaluateAfter_pair h₁]
  cases hv : e₁.value (bindings.semantics policy) with
  | error c₁ =>
      cases hw : e₂.value (bindings.semantics policy) with
      | error c₂ => exact absurd hw (hfine c₁ c₂ hv)
      | ok w => rfl
  | ok v =>
      cases e₂.value (bindings.semantics policy) with
      | error c₂ => rfl
      | ok w => exact evaluateAfter_congr (Bindings.lookup_insert_comm hne v w) after e

/-- Two neighbouring definitions of different names, neither of which refers to the
other name, can change places: the program has the same value or fails with the same
error, unless both definitions fail behind the ones before them. In that case the
program fails in either order, with the error of the definition that comes first. -/
theorem evaluate_swap_independent (policy : DivisionPolicy) (before after : List Definition)
    (e : Expr) (hne : x ≠ y) (h₁ : ¬ e₁.Mentions y) (h₂ : ¬ e₂.Mentions x) :
    ((∀ c₁ c₂, ¬ BothFail policy before e₁ e₂ c₁ c₂) →
      evaluate policy ⟨before ++ [⟨x, e₁⟩, ⟨y, e₂⟩] ++ after, e⟩ =
        evaluate policy ⟨before ++ [⟨y, e₂⟩, ⟨x, e₁⟩] ++ after, e⟩) ∧
    ∀ c₁ c₂, BothFail policy before e₁ e₂ c₁ c₂ →
      evaluate policy ⟨before ++ [⟨x, e₁⟩, ⟨y, e₂⟩] ++ after, e⟩ = .error c₁ ∧
        evaluate policy ⟨before ++ [⟨y, e₂⟩, ⟨x, e₁⟩] ++ after, e⟩ = .error c₂ := by
  have hsplit (d d' : Definition) : evaluate policy ⟨before ++ [d, d'] ++ after, e⟩ =
      Definition.bindAll policy .empty before >>= fun made =>
        evaluateAfter policy made (d :: d' :: after) e := by
    rw [List.append_assoc]
    exact evaluateAfter_append .empty before (d :: d' :: after) e
  rw [hsplit, hsplit]
  simp only [BothFail, Machine.evaluate_eq_value]
  constructor
  · intro hfine
    cases hmade : Definition.bindAll policy .empty before with
    | error c => rfl
    | ok made =>
        apply evaluateAfter_swap hne h₁ h₂
        intro c₁ c₂ hc₁ hc₂
        exact hfine c₁ c₂ ⟨made, hmade, hc₁, hc₂⟩
  · rintro c₁ c₂ ⟨made, hmade, hc₁, hc₂⟩
    rw [hmade]
    change evaluateAfter policy made _ e = .error c₁ ∧ evaluateAfter policy made _ e = .error c₂
    rw [evaluateAfter_cons, evaluateAfter_cons, hc₁, hc₂]
    exact ⟨rfl, rfl⟩

/-- In `def x = a; def y = b; x` neither name is bound, and the first one is reported. -/
theorem evaluate_swap_independent_unbound :
    "x" ≠ "y" ∧ ¬ (Expr.reference "a").Mentions "y" ∧ ¬ (Expr.reference "b").Mentions "x" ∧
    evaluate .error ⟨[] ++ [⟨"x", .reference "a"⟩, ⟨"y", .reference "b"⟩] ++ [], .reference "x"⟩ =
      .error (.undefinedName "a") ∧
    evaluate .error ⟨[] ++ [⟨"y", .reference "b"⟩, ⟨"x", .reference "a"⟩] ++ [], .reference "x"⟩ =
      .error (.undefinedName "b") := by
  have hne : "x" ≠ "y" := by decide
  have h₁ : ¬ (Expr.reference "a").Mentions "y" := by simp [Expr.Mentions]
  have h₂ : ¬ (Expr.reference "b").Mentions "x" := by simp [Expr.Mentions]
  have hfail : BothFail .error [] (.reference "a") (.reference "b") (.undefinedName "a")
      (.undefinedName "b") :=
    ⟨.empty, rfl, Machine.evaluate_eq_value _ _ _, Machine.evaluate_eq_value _ _ _⟩
  exact ⟨hne, h₁, h₂,
    (evaluate_swap_independent .error [] [] (.reference "x") hne h₁ h₂).2 _ _ hfail⟩

end Program

end LineCalc
