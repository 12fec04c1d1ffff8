import LineCalc.Proofs.Composition
import LineCalc.Proofs.Nesting
import LineCalc.Proofs.StrictNames

/-!
# Reading what was rendered

The rendered form of a program has parentheses around every operation. Read back,
it gives the program in which every operation has exactly one group of its own;
the two are rendered alike and have the same value. The parentheses of the
rendered form are the groups of that program, so it can be read back as long as
they nest within the group limit, and otherwise fails for its depth. The grammar
knows no such limit, so at any depth the rendered form determines that program.
-/

namespace LineCalc

open Text Lexer Grammar LineCalc.Parser

/-- Every operation in exactly one group of its own; a group around an operation
counts as that one, and all other groups stay. -/
def Expr.parenthesized : Expr → Expr
  | literal text => literal text
  | reference name => reference name
  | group inner => if inner.isBinary then inner.parenthesized else group inner.parenthesized
  | binary op left right => group (binary op left.parenthesized right.parenthesized)

/-- A definition with its value parenthesised. -/
def Definition.parenthesized (d : Definition) : Definition := ⟨d.name, d.value.parenthesized⟩

/-- A program with all its expressions parenthesised. -/
def Program.parenthesized (p : Program) : Program :=
  ⟨p.definitions.map Definition.parenthesized, p.result.parenthesized⟩

variable {rule : WordRule}

namespace Expr

@[simp] theorem isBinary_parenthesized (e : Expr) : e.parenthesized.isBinary = false := by
  induction e with
  | literal _ => rfl
  | reference _ => rfl
  | group inner ih =>
      rw [parenthesized]
      split
      · exact ih
      · rfl
  | binary _ _ _ _ _ => rfl

theorem render_parenthesized (e : Expr) : e.parenthesized.render = e.render := by
  induction e with
  | literal _ => rfl
  | reference _ => rfl
  | group inner ih =>
      rw [parenthesized, render]
      split
      · exact ih
      · simp [render, ih]
  | binary op left right ihl ihr => simp [parenthesized, render, isBinary, ihl, ihr]

theorem value_parenthesized {ε α : Type} (S : Semantics ε α) (e : Expr) :
    e.parenthesized.value S = e.value S := by
  induction e with
  | literal _ => rfl
  | reference _ => rfl
  | group inner ih =>
      rw [parenthesized]
      split
      · exact ih
      · exact ih
  | binary op left right ihl ihr => simp only [parenthesized, value, ihl, ihr]

theorem evaluate_parenthesized (policy : DivisionPolicy) (bindings : Bindings Float) (e : Expr) :
    e.parenthesized.evaluate policy bindings = e.evaluate policy bindings := by
  rw [Machine.evaluate_eq_value, Machine.evaluate_eq_value, value_parenthesized]

end Expr

theorem Definition.bindAll_parenthesized (policy : DivisionPolicy) (bindings : Bindings Float)
    (ds : List Definition) :
    bindAll policy bindings (ds.map parenthesized) = bindAll policy bindings ds := by
  induction ds generalizing bindings with
  | nil => rfl
  | cons d ds ih =>
      simp only [List.map_cons, bindAll, parenthesized, Expr.evaluate_parenthesized, ih]

theorem Program.evaluate_parenthesized (policy : DivisionPolicy) (p : Program) :
    p.parenthesized.evaluate policy = p.evaluate policy := by
  simp only [evaluate, parenthesized, Definition.bindAll_parenthesized,
    Expr.evaluate_parenthesized]

theorem Program.render_parenthesized (p : Program) : p.parenthesized.render = p.render := by
  have hdefinition (d : Definition) : d.parenthesized.render = d.render := by
    simp only [Definition.render, Definition.parenthesized, Expr.render_parenthesized]
  simp only [render, parenthesized, List.foldr_map, hdefinition, Expr.render_parenthesized]

/-- A rendered expression is read as an operand, whatever the expression is. -/
theorem Expr.reads_render {e : Expr} (h : e.Spelled rule) :
    Reads rule e.render.toList .primary e.parenthesized := by
  induction e with
  | literal text => exact .literal h
  | reference name => exact .reference h
  | group inner ih =>
      rw [parenthesized, render]
      split
      · exact ih h
      · simpa using (ih h).ofPrimary.group
  | binary op left right ihl ihr =>
      have hblank : ∀ c ∈ [' '], isBlank c = true := List.forall_mem_singleton.mpr (by decide)
      have hoperation := Reads.operation op [' '] [' '] hblank hblank (ihl h.1) (ihr h.2)
      simpa [parenthesized, render] using hoperation.group

theorem isLexeme_define (rule : WordRule) : IsLexeme rule .define ['d', 'e', 'f'] := by
  refine ⟨'d', ['e', 'f'], rfl, by decide, ?_⟩
  cases rule <;> decide

theorem Definition.splits_render {d : Definition} (hname : IsLexeme rule .ident d.name.toList)
    (hvalue : d.value.Spelled rule) (pos : Nat) :
    ∃ w, Splits rule pos d.render.toList w ∧ IsDefinition w d.parenthesized := by
  have hspace : isBlank ' ' = true := by decide
  have hequal : ('=', TokenKind.equal) ∈ marks := by decide
  have hsemicolon : (';', TokenKind.semicolon) ∈ marks := by decide
  obtain ⟨w, hw, hd⟩ := (Expr.reads_render hvalue).ofPrimary
    (pos + 3 + 1 + d.name.toList.length + 1 + 1 + 1)
  have hend := hw.append (separated_mark hsemicolon []) (.mark hsemicolon .nil)
  have hafter := Splits.blank hspace (.mark hequal (.blank hspace hend))
  have hbound := (Splits.ofLexeme hname).append (separated_blank hspace _) hafter
  have hwhole := (Splits.ofLexeme (isLexeme_define rule)).append (separated_blank hspace _)
    (.blank hspace hbound)
  have htext : d.render.toList = ['d', 'e', 'f'] ++ ' ' :: (d.name.toList ++
      ' ' :: '=' :: ' ' :: (d.value.render.toList ++ [';'])) := by simp [render]
  rw [String.ofList_toList] at hwhole
  rw [htext]
  exact ⟨_, hwhole, .intro rfl rfl rfl hd rfl⟩

/-- A rendered program is split into the tokens of the parenthesised program. -/
theorem Program.splits_render {p : Program} (h : p.Spelled rule) (pos : Nat) :
    ∃ w, Splits rule pos p.render.toList w ∧ IsProgram w p.parenthesized := by
  obtain ⟨ds, e⟩ := p
  obtain ⟨hdefinitions, hresult⟩ := h
  induction ds generalizing pos with
  | nil =>
      obtain ⟨w, hw, hd⟩ := (Expr.reads_render hresult).ofPrimary pos
      exact ⟨w, hw, .result hd⟩
  | cons d ds ih =>
      obtain ⟨hfirst, hmore⟩ := List.forall_mem_cons.mp hdefinitions
      obtain ⟨v, hv, hd⟩ := Definition.splits_render hfirst.1 hfirst.2 pos
      obtain ⟨w, hw, hp⟩ := ih (pos + d.render.toList.length + 1) hmore hresult
      have hspace : isBlank ' ' = true := by decide
      refine ⟨v ++ w, ?_, .definition hd hp⟩
      simpa [render] using hv.append (separated_blank hspace _) (.blank hspace hw)

theorem hasNesting_of_isLexeme {kind : TokenKind} {text : List Char}
    (h : IsLexeme rule kind text) (hkind : kind = .number ∨ kind = .ident) :
    HasNesting text 0 := by
  have hword := h.isWordChar hkind
  apply HasNesting.plain
  · intro hopen
    exact absurd (hword '(' hopen) (by decide)
  · intro hclose
    exact absurd (hword ')' hclose) (by decide)

/-- The parentheses of a rendered expression are the groups of the parenthesised one. -/
theorem Expr.hasNesting_render {e : Expr} (h : e.Spelled rule) :
    HasNesting e.render.toList e.parenthesized.groupDepth := by
  induction e with
  | literal text => exact hasNesting_of_isLexeme h (Or.inl rfl)
  | reference name => exact hasNesting_of_isLexeme h (Or.inr rfl)
  | group inner ih =>
      rw [parenthesized, render]
      split
      · exact ih h
      · simpa [groupDepth] using (ih h).parentheses
  | binary op left right ihl ihr =>
      have hsign : HasNesting (' ' :: (op.symbol.toList ++ [' '])) 0 := by
        apply HasNesting.plain <;> cases op <;> decide
      have hinner := ((ihl h.1).append hsign).append (ihr h.2)
      rw [Nat.max_zero] at hinner
      simpa [parenthesized, render, groupDepth] using hinner.parentheses

theorem Definition.hasNesting_render {d : Definition}
    (hname : IsLexeme rule .ident d.name.toList) (hvalue : d.value.Spelled rule) :
    HasNesting d.render.toList d.value.parenthesized.groupDepth := by
  have hkeyword : HasNesting "def ".toList 0 := .plain (by decide) (by decide)
  have hequal : HasNesting " = ".toList 0 := .plain (by decide) (by decide)
  have hsemicolon : HasNesting ";".toList 0 := .plain (by decide) (by decide)
  have hbound := (hkeyword.append (hasNesting_of_isLexeme hname (Or.inr rfl))).append hequal
  have hwhole := (hbound.append (Expr.hasNesting_render hvalue)).append hsemicolon
  simpa only [render, String.toList_append, Nat.max_zero, Nat.zero_max] using hwhole

theorem Program.hasNesting_render {p : Program} (h : p.Spelled rule) :
    HasNesting p.render.toList p.parenthesized.groupDepth := by
  obtain ⟨ds, e⟩ := p
  obtain ⟨hdefinitions, hresult⟩ := h
  induction ds with
  | nil => exact Expr.hasNesting_render hresult
  | cons d ds ih =>
      obtain ⟨hfirst, hmore⟩ := List.forall_mem_cons.mp hdefinitions
      have hspace : HasNesting " ".toList 0 := .plain (by decide) (by decide)
      have hbefore := (Definition.hasNesting_render hfirst.1 hfirst.2).append hspace
      have htext : (mk (d :: ds) e).render.toList =
          d.render.toList ++ " ".toList ++ (mk ds e).render.toList := by simp [render]
      rw [Nat.max_zero] at hbefore
      rw [htext]
      exact hbefore.append (ih hmore hresult)

/-- The rendered form of what is read from a line is split into the tokens of the
parenthesised program, whose groups nest as its parentheses do. -/
theorem Line.exists_splits_render {source : String} {p : Program}
    (h : Line.program rule source = .ok p) :
    ∃ w, Splits rule 0 p.render.toList w ∧ IsProgram w p.parenthesized ∧
      (NestsWithin 100 p.render.toList ↔ p.parenthesized.groupDepth ≤ groupLimit) := by
  have hspelled := Line.spelled_of_program h
  obtain ⟨w, hw, hp⟩ := Program.splits_render hspelled 0
  exact ⟨w, hw, hp, (Program.hasNesting_render hspelled).within_iff groupLimit⟩

/-- What is read from a line, once rendered, is read back with every operation in a
group of its own, as long as the parentheses nest within the group limit. -/
theorem Line.program_render {source : String} {p : Program}
    (h : Line.program rule source = .ok p) (hwithin : NestsWithin 100 p.render.toList) :
    Line.program rule p.render = .ok p.parenthesized := by
  obtain ⟨w, hw, hp, hnesting⟩ := Line.exists_splits_render h
  exact Line.program_eq_ok_iff.mpr ⟨w, hw, hp, hnesting.mp hwithin⟩

/-- If the parentheses do not nest within the group limit, this is what the rendered
line fails for. -/
theorem Line.program_render_tooDeep {source : String} {p : Program}
    (h : Line.program rule source = .ok p) (hbeyond : ¬ NestsWithin 100 p.render.toList) :
    ∃ t, Line.program rule p.render =
      .error (.ofError p.render (.parse (.nestingTooDeep t 100))) := by
  obtain ⟨w, hw, hp, hnesting⟩ := Line.exists_splits_render h
  have hdeep : groupLimit < p.parenthesized.groupDepth :=
    Nat.lt_of_not_le fun hle => hbeyond (hnesting.mpr hle)
  obtain ⟨u, t, v, rfl, hx⟩ := hp.rejects_tooDeep hdeep
  exact ⟨t, Line.program_eq_error hw hx⟩

/-- Programs that are rendered alike are the same once every operation has a group
of its own, whichever rule their names follow. -/
theorem Program.parenthesized_eq_of_render {rule rule' : WordRule} {p q : Program}
    (hp : p.Spelled rule) (hq : q.Spelled rule') (h : p.render = q.render) :
    p.parenthesized = q.parenthesized := by
  obtain ⟨w, hw, hpw⟩ := Program.splits_render hp 0
  obtain ⟨v, hv, hqv⟩ := Program.splits_render hq 0
  rw [← h] at hv
  obtain rfl := hw.permissive.unique hv.permissive
  exact hpw.unique hqv

/-- Two programs that were read from lines are rendered alike exactly if they are
the same once every operation has a group of its own, and then they have the same
value or the same error under every policy. -/
theorem Line.render_eq_iff_parenthesized_eq {rule rule' : WordRule} {a b : String}
    {p q : Program} (hp : Line.program rule a = .ok p) (hq : Line.program rule' b = .ok q) :
    (p.render = q.render ↔ p.parenthesized = q.parenthesized) ∧
    (p.render = q.render → ∀ policy, p.evaluate policy = q.evaluate policy) := by
  have hsame : p.render = q.render → p.parenthesized = q.parenthesized :=
    Program.parenthesized_eq_of_render (Line.spelled_of_program hp) (Line.spelled_of_program hq)
  refine ⟨⟨hsame, ?_⟩, ?_⟩
  · intro h
    rw [← p.render_parenthesized, h, q.render_parenthesized]
  · intro h policy
    rw [← p.evaluate_parenthesized, hsame h, q.evaluate_parenthesized]

/-- The lines `(1 - x) * 2` and `((1 - x) * 2)` are rendered alike. -/
theorem Line.render_eq_iff_parenthesized_eq_product :
    Line.program .any "(1 - x) * 2" =
      .ok ⟨[], .binary .mul (.group (.binary .sub (.literal "1") (.reference "x")))
        (.literal "2")⟩ ∧
    Line.program .strict "((1 - x) * 2)" =
      .ok ⟨[], .group (.binary .mul (.group (.binary .sub (.literal "1") (.reference "x")))
        (.literal "2"))⟩ ∧
    ∀ policy,
      Program.evaluate policy
        ⟨[], .binary .mul (.group (.binary .sub (.literal "1") (.reference "x")))
          (.literal "2")⟩ =
      Program.evaluate policy
        ⟨[], .group (.binary .mul (.group (.binary .sub (.literal "1") (.reference "x")))
          (.literal "2"))⟩ := by
  have hp : Line.program .any "(1 - x) * 2" =
      .ok ⟨[], .binary .mul (.group (.binary .sub (.literal "1") (.reference "x")))
        (.literal "2")⟩ := by decide +kernel
  have hq : Line.program .strict "((1 - x) * 2)" =
      .ok ⟨[], .group (.binary .mul (.group (.binary .sub (.literal "1") (.reference "x")))
        (.literal "2"))⟩ := by decide +kernel
  exact ⟨hp, hq, (Line.render_eq_iff_parenthesized_eq hp hq).2 rfl⟩

end LineCalc
