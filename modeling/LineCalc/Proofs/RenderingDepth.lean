import LineCalc.Proofs.Rendering

/-!
# Rendering within a limit of calls

Rendering calls itself for the parts of a program, and where only so many calls may be
under way at once it gives the rendered form exactly if the program is not too deep.
The calls are at most twice as many as the parentheses that nest in the rendered form,
and a few more, so a form within the group limit needs few of them. A chain of
operations needs one for every operation, however few groups its line has: no limit is
enough for all lines that are read.

## Implementation notes

What is claimed of the rendered form is stated for a limit, in `ReadsBack`, and the
limits for which it holds are determined exactly. The text whose parentheses are
counted is `Program.render`, which is there whether or not it can be computed.
-/

namespace LineCalc

open Text Lexer Grammar LineCalc.Parser

variable {rule : WordRule} {limit : Nat}

/-- The number of calls that are under way at once while an expression is rendered. -/
def Expr.renderDepth : Expr → Nat
  | literal _ => 1
  | reference _ => 1
  | group inner => inner.renderDepth + 1
  | binary _ left right => max left.renderDepth right.renderDepth + 1

/-- The number of calls that are under way at once while a definition is rendered. -/
def Definition.renderDepth (d : Definition) : Nat := d.value.renderDepth + 1

/-- The number of calls that are under way at once while a program is rendered. -/
def Program.renderDepth (p : Program) : Nat :=
  p.definitions.foldr (fun d depth => max d.renderDepth depth) p.result.renderDepth + 1

namespace Expr

/-- Rendering gives the rendered form as long as there are calls enough for it. -/
theorem renderWithin_eq (limit : Nat) (e : Expr) :
    e.renderWithin limit = if e.renderDepth ≤ limit then some e.render else none := by
  induction e generalizing limit with
  | literal text =>
      cases limit with
      | zero => rfl
      | succ limit => simp [renderWithin, renderDepth, render]
  | reference name =>
      cases limit with
      | zero => rfl
      | succ limit => simp [renderWithin, renderDepth, render]
  | group inner ih =>
      cases limit with
      | zero => rfl
      | succ limit =>
          simp only [renderWithin, renderDepth, ih, render, Nat.add_le_add_iff_right]
          by_cases h : inner.renderDepth ≤ limit
          · simp only [if_pos h]
          · simp only [if_neg h]
  | binary op left right ihl ihr =>
      cases limit with
      | zero => rfl
      | succ limit =>
          simp only [renderWithin, renderDepth, ihl, ihr, render, Nat.add_le_add_iff_right,
            Nat.max_le]
          by_cases hl : left.renderDepth ≤ limit
          · by_cases hr : right.renderDepth ≤ limit
            · simp only [hl, hr, and_self, if_true]
            · simp only [hl, hr, and_false, if_true, if_false]
          · simp only [hl, false_and, if_false]

/-- Each nested pair of parentheses costs at most two calls: one for a group, and one
for the operation in it. -/
theorem renderDepth_le (e : Expr) :
    e.renderDepth ≤ 2 * e.parenthesized.groupDepth + 1 ∧
      (e.isBinary = true → e.renderDepth ≤ 2 * e.parenthesized.groupDepth) := by
  induction e with
  | literal text => simp [renderDepth, isBinary]
  | reference name => simp [renderDepth, isBinary]
  | group inner ih =>
      refine ⟨?_, fun h => by cases h⟩
      rw [renderDepth, parenthesized]
      split
      · next hinner => exact Nat.succ_le_succ (ih.2 hinner)
      · have hdepth := ih.1
        rw [groupDepth]
        omega
  | binary op left right ihl ihr =>
      have hdepth : (binary op left right).renderDepth ≤
          2 * (binary op left right).parenthesized.groupDepth := by
        have hleft := ihl.1
        have hright := ihr.1
        simp only [renderDepth, parenthesized, groupDepth]
        omega
      exact ⟨Nat.le_succ_of_le hdepth, fun _ => hdepth⟩

theorem parenthesized_parenthesized (e : Expr) :
    e.parenthesized.parenthesized = e.parenthesized := by
  induction e with
  | literal _ => rfl
  | reference _ => rfl
  | group inner ih =>
      rw [parenthesized]
      split
      · exact ih
      · rw [parenthesized, isBinary_parenthesized, if_neg (by decide), ih]
  | binary op left right ihl ihr =>
      simp only [parenthesized, isBinary, if_true, ihl, ihr]

end Expr

namespace Definition

theorem renderWithin_eq (limit : Nat) (d : Definition) :
    d.renderWithin limit = if d.renderDepth ≤ limit then some d.render else none := by
  cases limit with
  | zero => rfl
  | succ limit =>
      simp only [renderWithin, renderDepth, Expr.renderWithin_eq, render,
        Nat.add_le_add_iff_right]
      by_cases h : d.value.renderDepth ≤ limit
      · simp only [if_pos h]
      · simp only [if_neg h]

end Definition

namespace Program

/-- A program is rendered exactly if there are calls enough for it. -/
theorem renderWithin_eq (limit : Nat) (p : Program) :
    p.renderWithin limit = if p.renderDepth ≤ limit then some p.render else none := by
  cases limit with
  | zero => rfl
  | succ limit =>
      obtain ⟨ds, e⟩ := p
      simp only [renderWithin, renderDepth, render, Nat.add_le_add_iff_right]
      induction ds with
      | nil => exact e.renderWithin_eq limit
      | cons d ds ih =>
          simp only [List.foldr_cons, ih, d.renderWithin_eq, Nat.max_le]
          by_cases hd : d.renderDepth ≤ limit
          · by_cases hmore : ds.foldr (fun d depth => max d.renderDepth depth) e.renderDepth ≤ limit
            · simp only [hd, hmore, and_self, if_true]
            · simp only [hd, hmore, and_false, if_true, if_false]
          · simp only [hd, false_and, if_false]

theorem renderWithin_eq_some_iff {p : Program} {text : String} :
    p.renderWithin limit = some text ↔ p.renderDepth ≤ limit ∧ text = p.render := by
  rw [renderWithin_eq]
  by_cases h : p.renderDepth ≤ limit
  · rw [if_pos h, Option.some.injEq, eq_comm, and_iff_right h]
  · rw [if_neg h]
    exact iff_of_false (by simp) (fun htext => h htext.1)

theorem renderDepth_le (p : Program) : p.renderDepth ≤ 2 * p.parenthesized.groupDepth + 3 := by
  obtain ⟨ds, e⟩ := p
  induction ds with
  | nil =>
      have hresult := e.renderDepth_le.1
      simp only [renderDepth, parenthesized, groupDepth, List.map_nil, List.foldr_nil]
      omega
  | cons d ds ih =>
      have hvalue := d.value.renderDepth_le.1
      simp only [renderDepth, Definition.renderDepth, parenthesized, groupDepth, List.map_cons,
        List.foldr_cons, Definition.parenthesized] at ih ⊢
      omega

theorem parenthesized_parenthesized (p : Program) :
    p.parenthesized.parenthesized = p.parenthesized := by
  have hdefinition (d : Definition) : d.parenthesized.parenthesized = d.parenthesized := by
    simp only [Definition.parenthesized, Expr.parenthesized_parenthesized]
  simp only [parenthesized, List.map_map, Function.comp_def, hdefinition,
    Expr.parenthesized_parenthesized]

/-- A rendered form whose parentheses nest within the group limit needs few calls, and
so does that of the program it is read back as. -/
theorem renderDepth_le_of_nestsWithin {p : Program} (h : p.Spelled rule)
    (hwithin : NestsWithin 100 p.render.toList) :
    p.renderDepth ≤ 203 ∧ p.parenthesized.renderDepth ≤ 203 := by
  have hgroups : p.parenthesized.groupDepth ≤ 100 :=
    ((hasNesting_render h).within_iff 100).mp hwithin
  have hdepth := p.renderDepth_le
  have hdepth' := p.parenthesized.renderDepth_le
  rw [parenthesized_parenthesized] at hdepth'
  omega

end Program

/-- What holds of the rendered form of a program where at most `limit` calls may be under
way at once: it can be computed, and as long as its parentheses nest within the group
limit it is read back with every operation in a group of its own, which is rendered in
the same way. Otherwise it fails for its nesting and for nothing else. Groups do not
change the value of the program. -/
structure Program.ReadsBack (limit : Nat) (rule : WordRule) (p : Program) : Prop where
  within : NestsWithin 100 p.render.toList → ∃ text, p.renderWithin limit = some text ∧
    Line.program rule text = .ok p.parenthesized ∧ p.parenthesized.renderWithin limit = some text
  beyond : ¬ NestsWithin 100 p.render.toList → ∃ text t, p.renderWithin limit = some text ∧
    Line.program rule text = .error (.ofError text (.parse (.nestingTooDeep t 100)))
  evaluate_eq : ∀ policy, p.parenthesized.evaluate policy = p.evaluate policy

namespace Line

variable {source : String} {p : Program}

theorem readsBack_of_renderDepth_le (h : program rule source = .ok p)
    (hdepth : p.renderDepth ≤ limit)
    (hgroups : NestsWithin 100 p.render.toList → p.parenthesized.renderDepth ≤ limit) :
    p.ReadsBack limit rule := by
  have htext : p.renderWithin limit = some p.render :=
    Program.renderWithin_eq_some_iff.mpr ⟨hdepth, rfl⟩
  constructor
  · intro hwithin
    refine ⟨p.render, htext, program_render h hwithin, ?_⟩
    exact Program.renderWithin_eq_some_iff.mpr ⟨hgroups hwithin, p.render_parenthesized.symm⟩
  · intro hbeyond
    obtain ⟨t, ht⟩ := program_render_tooDeep h hbeyond
    exact ⟨p.render, t, htext, ht⟩
  · exact fun policy => p.evaluate_parenthesized policy

/-- Reading back takes the calls for rendering the program and what is read back. -/
theorem renderDepth_le_of_readsBack (hback : p.ReadsBack limit rule) :
    p.renderDepth ≤ limit ∧
      (NestsWithin 100 p.render.toList → p.parenthesized.renderDepth ≤ limit) := by
  by_cases hwithin : NestsWithin 100 p.render.toList
  · obtain ⟨text, htext, -, htext'⟩ := hback.within hwithin
    exact ⟨(Program.renderWithin_eq_some_iff.mp htext).1,
      fun _ => (Program.renderWithin_eq_some_iff.mp htext').1⟩
  · obtain ⟨text, t, htext, -⟩ := hback.beyond hwithin
    exact ⟨(Program.renderWithin_eq_some_iff.mp htext).1, fun h => absurd h hwithin⟩

/-- What is read from a line can be rendered and read back exactly if there are calls
enough for rendering it, and for rendering what is read back. If the parentheses nest
within the group limit, 203 calls are enough for both. -/
theorem readsBack_iff (h : program rule source = .ok p) (limit : Nat) :
    (p.ReadsBack limit rule ↔ p.renderDepth ≤ limit ∧
      (NestsWithin 100 p.render.toList → p.parenthesized.renderDepth ≤ limit)) ∧
    (NestsWithin 100 p.render.toList →
      p.renderDepth ≤ 203 ∧ p.parenthesized.renderDepth ≤ 203) ∧
    p.renderWithin limit = (if p.renderDepth ≤ limit then some p.render else none) := by
  refine ⟨⟨renderDepth_le_of_readsBack, ?_⟩, ?_, p.renderWithin_eq limit⟩
  · rintro ⟨hdepth, hgroups⟩
    exact readsBack_of_renderDepth_le h hdepth hgroups
  · exact Program.renderDepth_le_of_nestsWithin (spelled_of_program h)

/-- The line `2 * x + 1.` is rendered as `((2 * x) + 1.)` and read back with two groups. -/
theorem readsBack_sum :
    program .any "2 * x + 1." =
      .ok ⟨[], .binary .add (.binary .mul (.literal "2") (.reference "x")) (.literal "1.")⟩ ∧
    Program.ReadsBack 203 .any
      ⟨[], .binary .add (.binary .mul (.literal "2") (.reference "x")) (.literal "1.")⟩ := by
  have h : program .any "2 * x + 1." =
      .ok ⟨[], .binary .add (.binary .mul (.literal "2") (.reference "x")) (.literal "1.")⟩ := by
    decide +kernel
  exact ⟨h, (readsBack_iff h 203).1.mpr ⟨by decide, fun _ => by decide⟩⟩

/-- The line `1 + 1 + … + 1` with some number of signs. -/
def sumOfOnes : Nat → String
  | 0 => "1"
  | n + 1 => sumOfOnes n ++ " + " ++ "1"

/-- What the line is read as: operations that are nested to the left. -/
def leftSum : Nat → Expr
  | 0 => .literal "1"
  | n + 1 => .binary .add (leftSum n) (.literal "1")

theorem reads_sumOfOnes (n : Nat) :
    Reads .any (sumOfOnes n).toList .expression (leftSum n) := by
  have hone : Reads .any "1".toList .primary (.literal "1") :=
    .literal ⟨'1', [], rfl, by decide, by decide⟩
  induction n with
  | zero => exact hone.ofPrimary
  | succ n ih =>
      have hblank : ∀ c ∈ [' '], isBlank c = true := List.forall_mem_singleton.mpr (by decide)
      have hsum := Reads.join .add [' '] [' '] hblank hblank ih hone
        fun hw hs hv => hw.ofPlus hs hv
      simpa [sumOfOnes, leftSum, Operator.symbol] using hsum

theorem groupDepth_leftSum (n : Nat) : (leftSum n).groupDepth = 0 := by
  induction n with
  | zero => rfl
  | succ n ih => simp [leftSum, Expr.groupDepth, ih]

theorem renderDepth_leftSum (n : Nat) : (leftSum n).renderDepth = n + 1 := by
  induction n with
  | zero => rfl
  | succ n ih => simp [leftSum, Expr.renderDepth, ih]

theorem program_sumOfOnes (n : Nat) : program .any (sumOfOnes n) = .ok ⟨[], leftSum n⟩ := by
  apply program_of_reads (reads_sumOfOnes n)
  rw [groupDepth_leftSum]
  exact Nat.zero_le _

theorem not_nestsWithin_sumOfOnes {n : Nat} (h : 100 < n) :
    ¬ NestsWithin 100 (Program.mk [] (leftSum n)).render.toList := by
  have hgroups (n : Nat) : (leftSum n).parenthesized.groupDepth = n := by
    induction n with
    | zero => rfl
    | succ n ih => simp [leftSum, Expr.parenthesized, Expr.groupDepth, ih]
  have hnesting := Program.hasNesting_render (spelled_of_program (program_sumOfOnes n))
  rw [hnesting.within_iff]
  simp only [Program.parenthesized, Program.groupDepth, List.map_nil, List.foldr_nil, hgroups]
  omega

/-- No limit is enough for all lines: a long sum needs a call for every sign. -/
theorem renderWithin_leftSum {n : Nat} (h : limit ≤ n) :
    Program.renderWithin limit ⟨[], leftSum n⟩ = none := by
  have hdepth : (Program.mk [] (leftSum n)).renderDepth = n + 2 := by
    simp only [Program.renderDepth, List.foldr_nil, renderDepth_leftSum]
  rw [Program.renderWithin_eq, hdepth, if_neg]
  omega

theorem not_readsBack_leftSum {n : Nat} (h : limit ≤ n) :
    ¬ Program.ReadsBack limit .any ⟨[], leftSum n⟩ := by
  intro hback
  have hrendered := Program.renderWithin_eq_some_iff.mpr
    ⟨(renderDepth_le_of_readsBack hback).1, rfl⟩
  rw [renderWithin_leftSum h] at hrendered
  cases hrendered

/-- A sum of two thousand ones is read, but a thousand calls are not enough to render
it, so nothing is read back. -/
theorem not_readsBack_two_thousand :
    program .any (sumOfOnes 1999) = .ok ⟨[], leftSum 1999⟩ ∧
    ¬ NestsWithin 100 (Program.mk [] (leftSum 1999)).render.toList ∧
    Program.renderWithin 1000 ⟨[], leftSum 1999⟩ = none ∧
    ¬ Program.ReadsBack 1000 .any ⟨[], leftSum 1999⟩ := by
  have hlimit : 1000 ≤ 1999 := by decide
  exact ⟨program_sumOfOnes 1999, not_nestsWithin_sumOfOnes (by decide),
    renderWithin_leftSum hlimit, not_readsBack_leftSum hlimit⟩

end Line

end LineCalc
