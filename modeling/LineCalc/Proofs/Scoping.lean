import LineCalc.Proofs.AcceptedLines
import LineCalc.Proofs.NumberLiterals
import LineCalc.Proofs.StackMachine

/-!
# Names and their definitions

A reference is bound if a definition of its name is complete before it; the value
of a definition does not see the definition itself. Under the policy by which
every division has a value, a program that was read from a line fails only for a
reference that is not bound, and then for the first one. The references of a
program are listed in the order of its trees, which is the order of the line.
-/

namespace LineCalc

open Lexer Grammar LineCalc.Parser

/-- A name that is referred to, and the definitions that are complete before it. -/
structure Reference where
  before : List Definition
  name : String

namespace Reference

/-- A definition of the name is complete before the reference. -/
def IsBound (r : Reference) : Prop := ∃ d ∈ r.before, d.name = r.name

instance (r : Reference) : Decidable r.IsBound :=
  inferInstanceAs (Decidable (∃ d ∈ r.before, d.name = r.name))

/-- Where a reference stands: the number of definitions before it, and its name. -/
def place (r : Reference) : Nat × String := (r.before.length, r.name)

end Reference

/-- The references in an expression from left to right. -/
def Expr.references (before : List Definition) : Expr → List Reference
  | literal _ => []
  | reference name => [⟨before, name⟩]
  | group inner => inner.references before
  | binary _ left right => left.references before ++ right.references before

namespace Program

/-- The references in definitions and a final expression, behind other definitions. -/
def referencesAfter (before : List Definition) : List Definition → Expr → List Reference
  | [], e => e.references before
  | d :: ds, e => d.value.references before ++ referencesAfter (before ++ [d]) ds e

/-- The references in a program from left to right. -/
def references (p : Program) : List Reference := referencesAfter [] p.definitions p.result

end Program

/-- The names in a token list that do not stand directly behind `def`, each with
the number of semicolons before it. The flag tells whether `def` stands directly
before the list. -/
def nameUses (semicolons : Nat) (defining : Bool) : List Token → List (Nat × String)
  | [] => []
  | t :: ts =>
      match t.kind with
      | .ident =>
          if defining then nameUses semicolons false ts
          else (semicolons, t.text) :: nameUses semicolons false ts
      | .semicolon => nameUses (semicolons + 1) false ts
      | kind => nameUses semicolons (kind = .define) ts

namespace Grammar

theorem Derives.nameUses_eq {phrase : Phrase} {w : List Token} {e : Expr}
    (h : Derives phrase w e) (before : List Definition) (ts : List Token) :
    nameUses before.length false (w ++ ts) =
      (e.references before).map Reference.place ++ nameUses before.length false ts := by
  induction h generalizing ts with
  | number h => simp [nameUses, h, Expr.references]
  | name h => simp [nameUses, h, Expr.references, Reference.place]
  | group ho _ hc ih => simp [nameUses, ho, hc, Expr.references, ih]
  | operand _ ih => exact ih ts
  | @operation l w v e f s op _ hs _ ihw ihv =>
      have hsign : nameUses before.length false (s :: (v ++ ts)) =
          nameUses before.length false (v ++ ts) := by
        generalize hk : s.kind = kind at hs
        cases hs <;> simp [nameUses, hk]
      simp [Expr.references, ihw, hsign, ihv]

/-- The references of a program stand in its tokens in the order of its trees. -/
theorem IsProgram.nameUses_eq {w : List Token} {p : Program} (h : IsProgram w p)
    (before : List Definition) (finish : Int) :
    nameUses before.length false (w ++ [Token.endAt finish]) =
      (Program.referencesAfter before p.definitions p.result).map Reference.place := by
  induction h generalizing before with
  | result h => simp [h.nameUses_eq before, Program.referencesAfter, nameUses, Token.endAt]
  | @definition v w d ds e hd _ ih =>
      have hmore := ih (before ++ [d])
      obtain ⟨hk, ha, hq, hw, hs⟩ := hd
      rw [List.length_append, List.length_singleton] at hmore
      simp [nameUses, hk, ha, hq, hs, hw.nameUses_eq before, Program.referencesAfter, hmore]

end Grammar

/-- What references make of an evaluation: a value if all of them are bound, and
otherwise the failure of the first that is not. -/
inductive Decides (rs : List Reference) : Except EvalError Float → Prop
  | value (hall : ∀ r ∈ rs, r.IsBound) (x : Float) : Decides rs (.ok x)
  | unbound {before after : List Reference} {r : Reference} (hrs : rs = before ++ r :: after)
      (hbefore : ∀ s ∈ before, s.IsBound) (hr : ¬ r.IsBound) :
      Decides rs (.error (.undefinedName r.name))

/-- An evaluation that goes on after a first part if that part has a value. -/
theorem Decides.append {rs ss : List Reference} {first whole : Except EvalError Float}
    (h : Decides rs first) (herror : ∀ x, first = .error x → whole = .error x)
    (hok : ∀ x, first = .ok x → Decides ss whole) : Decides (rs ++ ss) whole := by
  cases h with
  | value hall x =>
      cases hok x rfl with
      | value hmore y => exact .value (List.forall_mem_append.mpr ⟨hall, hmore⟩) y
      | @unbound before after r hss hbefore hr =>
          rw [hss, ← List.append_assoc]
          exact .unbound rfl (List.forall_mem_append.mpr ⟨hall, hbefore⟩) hr
  | @unbound before after r hrs hbefore hr =>
      rw [herror _ rfl, hrs, List.append_assoc, List.cons_append]
      exact .unbound rfl hbefore hr

/-- The names that have a value are those that are defined. -/
def Bindings.Covers (bindings : Bindings Float) (before : List Definition) : Prop :=
  ∀ name, (∃ x, bindings.get? name = some x) ↔ ∃ d ∈ before, d.name = name

theorem Bindings.Covers.insert {bindings : Bindings Float} {before : List Definition}
    (h : bindings.Covers before) (d : Definition) (x : Float) :
    (bindings.insert d.name x).Covers (before ++ [d]) := by
  intro name
  rw [get?_insert]
  by_cases hname : d.name = name
  · simp [hname]
  · simp [hname, h name]

theorem Operator.apply_ieee (op : Operator) (x y : Float) : ∃ z, op.apply .ieee x y = .ok z := by
  cases op <;> exact ⟨_, rfl⟩

variable {rule : WordRule}

/-- Without failing divisions, an expression fails for its first unbound reference only. -/
theorem Expr.decides_value {bindings : Bindings Float} {before : List Definition} {e : Expr}
    (hbindings : bindings.Covers before) (h : e.Spelled rule) :
    Decides (e.references before) (e.value (bindings.semantics .ieee)) := by
  induction e with
  | literal text =>
      obtain ⟨x, hx⟩ := literalValue_of_isNumber (IsLexeme.isNumber h)
      simp only [value, Bindings.semantics, hx]
      exact .value (by simp [references]) x
  | reference name =>
      simp only [value, Bindings.semantics, Bindings.lookup]
      cases hget : bindings.get? name with
      | some x =>
          refine .value ?_ x
          intro r hr
          rw [List.mem_singleton.mp hr]
          exact (hbindings name).mp ⟨x, hget⟩
      | none =>
          refine @Decides.unbound _ [] [] ⟨before, name⟩ rfl (by simp) ?_
          intro hbound
          obtain ⟨x, hx⟩ := (hbindings name).mpr hbound
          rw [hget] at hx
          cases hx
  | group inner ih => exact ih h
  | binary op left right ihl ihr =>
      refine (ihl h.1).append (fun x hx => by simp only [value, hx]) ?_
      intro x hx
      rw [← List.append_nil (right.references before)]
      refine (ihr h.2).append (fun y hy => by simp only [value, hx, hy]) ?_
      intro y hy
      obtain ⟨z, hz⟩ := op.apply_ieee x y
      have hvalue : (binary op left right).value (bindings.semantics .ieee) = .ok z := by
        simp only [value, hx, hy]
        exact hz
      rw [hvalue]
      exact .value (List.forall_mem_nil _) z

/-- Evaluate definitions and a final expression with names already bound. -/
def Program.evaluateAfter (policy : DivisionPolicy) (bindings : Bindings Float)
    (ds : List Definition) (e : Expr) : Except EvalError Float :=
  match Definition.bindAll policy bindings ds with
  | .error x => .error x
  | .ok bindings => e.evaluate policy bindings

theorem Program.evaluateAfter_nil (policy : DivisionPolicy) (bindings : Bindings Float)
    (e : Expr) : evaluateAfter policy bindings [] e = e.value (bindings.semantics policy) :=
  Machine.evaluate_eq_value policy bindings e

theorem Program.evaluateAfter_cons (policy : DivisionPolicy) (bindings : Bindings Float)
    (d : Definition) (ds : List Definition) (e : Expr) :
    evaluateAfter policy bindings (d :: ds) e =
      d.value.value (bindings.semantics policy) >>= fun x =>
        evaluateAfter policy (bindings.insert d.name x) ds e := by
  simp only [evaluateAfter, Definition.bindAll, Machine.evaluate_eq_value]
  cases d.value.value (bindings.semantics policy) <;> rfl

theorem Program.decides_evaluateAfter {bindings : Bindings Float} {before ds : List Definition}
    {e : Expr} (hbindings : bindings.Covers before)
    (hds : ∀ d ∈ ds, d.value.Spelled rule) (he : e.Spelled rule) :
    Decides (referencesAfter before ds e) (evaluateAfter .ieee bindings ds e) := by
  induction ds generalizing bindings before with
  | nil =>
      rw [evaluateAfter_nil]
      exact Expr.decides_value hbindings he
  | cons d ds ih =>
      obtain ⟨hd, hds⟩ := List.forall_mem_cons.mp hds
      refine (Expr.decides_value hbindings hd).append (fun x hx => ?_) (fun x hx => ?_)
      · rw [evaluateAfter_cons, hx]
        rfl
      · rw [evaluateAfter_cons, hx]
        exact ih (hbindings.insert d x) hds

theorem Program.decides_evaluate {p : Program} (h : p.Spelled rule) :
    Decides p.references (p.evaluate .ieee) := by
  have hempty : Bindings.empty.Covers [] := by simp [Bindings.Covers]
  exact decides_evaluateAfter hempty (fun d hd => (h.definitions d hd).2) h.result

namespace Line

variable {settings : Settings} {source : String} {p : Program}

/-- A line that is a program has a value under the policy by which every division
has one exactly if all its references are bound, and otherwise fails for the first
reference that is not. The references are the names of the line that are not being
defined, from left to right, each behind as many definitions as semicolons. -/
theorem evaluate_ieee_iff_isBound (hieee : settings.division = .ieee)
    (h : program settings.wordRule source = .ok p) :
    (∃ ts, Token.scan settings.wordRule source = .ok ts ∧
      p.references.map Reference.place = nameUses 0 false ts) ∧
    ((∃ x, evaluate settings source = .ok x) ↔ ∀ r ∈ p.references, r.IsBound) ∧
    ((¬ ∀ r ∈ p.references, r.IsBound) →
      ∃ before r after, p.references = before ++ r :: after ∧ (∀ s ∈ before, s.IsBound) ∧
        ¬ r.IsBound ∧
        evaluate settings source = .error (.unplaced (.eval (.undefinedName r.name)))) := by
  obtain ⟨w, hw, hp, -⟩ := program_eq_ok_iff.mp h
  have hdecides := Program.decides_evaluate (hp.spelled hw.isLexeme)
  refine ⟨⟨_, hw.scan_eq, (hp.nameUses_eq [] _).symm⟩, ?_⟩
  generalize hresult : p.evaluate .ieee = result at hdecides
  have heval : evaluate settings source =
      match result with
      | .error x => .error (.unplaced (.eval x))
      | .ok x => .ok x := by
    simp only [evaluate, h, hieee, hresult]
    cases result <;> rfl
  cases hdecides with
  | value hall x =>
      exact ⟨⟨fun _ => hall, fun _ => ⟨x, heval⟩⟩, fun hnot => absurd hall hnot⟩
  | @unbound before after r hrs hbefore hr =>
      have hnot : ¬ ∀ r ∈ p.references, r.IsBound := fun hall => hr (hall r (by simp [hrs]))
      have hfails : ¬ ∃ x, evaluate settings source = .ok x := by
        rintro ⟨x, hx⟩
        rw [heval] at hx
        cases hx
      exact ⟨⟨fun hok => absurd hok hfails, fun hall => absurd hall hnot⟩,
        fun _ => ⟨before, r, after, hrs, hbefore, hr, heval⟩⟩

/-- In `def x = x; x` the definition does not see itself. -/
theorem evaluate_ieee_self_reference :
    program .strict "def x = x; x" = .ok ⟨[⟨"x", .reference "x"⟩], .reference "x"⟩ ∧
    evaluate ⟨.ieee, true, .warning⟩ "def x = x; x" =
      .error (.unplaced (.eval (.undefinedName "x"))) := by
  have h : program .strict "def x = x; x" =
      .ok ⟨[⟨"x", .reference "x"⟩], .reference "x"⟩ := by decide +kernel
  obtain ⟨-, -, hfails⟩ := @evaluate_ieee_iff_isBound ⟨.ieee, true, .warning⟩ _ _ rfl h
  obtain ⟨before, r, after, hrs, -, -, hevaluate⟩ := hfails (by decide)
  have hnames : ∀ s ∈ Program.references ⟨[⟨"x", .reference "x"⟩], .reference "x"⟩,
      s.name = "x" := by decide
  rw [hnames r (by simp [hrs])] at hevaluate
  exact ⟨h, hevaluate⟩

end Line

end LineCalc
