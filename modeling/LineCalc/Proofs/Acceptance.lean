import LineCalc.Proofs.Reading.Program

/-!
# The accepted token lists

A token list is accepted if and only if it is a program of the grammar up to its
end or its first end token, with at most one hundred groups open at any point.
The grammar gives every token list at most one tree, whatever its depth; this is
read off the reader, which finds every derivation once enough groups may be
opened.
-/

namespace LineCalc.Grammar

open LineCalc.Parser

/-- The tokens and the tree of an expression are determined by any text in which
it is not continued. -/
theorem Derives.unique {w w' rest rest' : List Token} {e e' : Expr}
    (h : Derives .expression w e) (h' : Derives .expression w' e')
    (heq : w ++ rest = w' ++ rest') (hend : Ends .expression (current 0 rest).kind)
    (hend' : Ends .expression (current 0 rest').kind) : e = e' ∧ rest = rest' := by
  let n := max e.groupDepth e'.groupDepth
  have hread : read 0 n .expression (w ++ rest) = .ok (e, rest) :=
    read_eq_ok h (Nat.le_max_left _ _) hend
  have hread' : read 0 n .expression (w' ++ rest') = .ok (e', rest') :=
    read_eq_ok h' (Nat.le_max_right _ _) hend'
  rw [heq, hread', Except.ok.injEq, Prod.mk.injEq] at hread
  exact ⟨hread.1.symm, hread.2.symm⟩

theorem IsDefinition.unique {v v' rest rest' : List Token} {d d' : Definition}
    (h : IsDefinition v d) (h' : IsDefinition v' d') (heq : v ++ rest = v' ++ rest') :
    d = d' ∧ rest = rest' := by
  obtain @⟨k, a, q, s, w, e, -, -, -, hw, hs⟩ := h
  obtain @⟨k', a', q', s', w', e', -, -, -, hw', hs'⟩ := h'
  simp only [List.cons_append, List.append_assoc, List.nil_append, List.cons.injEq] at heq
  obtain ⟨-, rfl, -, heq⟩ := heq
  obtain ⟨rfl, hrest⟩ := hw.unique hw' heq (ends_of_closing (by simp [hs]) _)
    (ends_of_closing (by simp [hs']) _)
  exact ⟨rfl, (List.cons.inj hrest).2⟩

/-- No expression begins like a definition. -/
theorem IsDefinition.not_derives {v w : List Token} {d : Definition} {e : Expr}
    (h : IsDefinition v d) : ¬ Derives .expression (v ++ w) e := by
  intro he
  obtain @⟨k, _, _, _, _, _, hk, _⟩ := h
  exact (he.inExpression k (by simp)).1 hk

/-- A token list has at most one tree. -/
theorem IsProgram.unique {w : List Token} {p : Program} (h : IsProgram w p) :
    ∀ {q}, IsProgram w q → p = q := by
  induction h with
  | result hw =>
      intro q hq
      cases hq with
      | result hw' =>
          have hend : Ends .expression (current 0 []).kind :=
            ends_of_closing (by simp [Token.endAt]) _
          obtain ⟨rfl, -⟩ := hw.unique hw' rfl hend hend
          rfl
      | definition hd _ => exact absurd hw hd.not_derives
  | @definition v w d ds e hd _ ih =>
      intro q hq
      generalize hu : v ++ w = u at hq
      cases hq with
      | result hw =>
          subst hu
          exact absurd hw hd.not_derives
      | definition hd' hp' =>
          obtain ⟨rfl, rfl⟩ := hd.unique hd' hu
          cases ih hp'
          rfl

theorem current_kind_eq_eof_iff (finish : Int) (rest : List Token) :
    (current finish rest).kind = .eof ↔
      rest = [] ∨ ∃ t us, rest = t :: us ∧ t.kind = .eof := by
  cases rest with
  | nil => simp [Token.endAt]
  | cons t us => simp

/-- The groups of a program stay within the limit at every point if and only if
those of its trees do. -/
theorem IsProgram.open_le_iff {w : List Token} {p : Program} (h : IsProgram w p) :
    (∀ u, u <+: w → openGroups u ≤ groupLimit) ↔ p.groupDepth ≤ groupLimit := by
  rw [← h.peak_eq]
  exact forall_prefix_le_iff_peak_le 0 groupLimit w

/-- A token list is accepted with a program exactly if, up to its end or its
first end token, it is derived as that program with at most one hundred groups
open at any point; and no token list is derived as two programs. -/
theorem ofTokens_eq_ok_iff_isProgram :
    (∀ (ts : List Token) (p : Program), Program.ofTokens ts = .ok p ↔
      ∃ w rest, ts = w ++ rest ∧ (rest = [] ∨ ∃ t us, rest = t :: us ∧ t.kind = .eof) ∧
        IsProgram w p ∧ ∀ u, u <+: w → openGroups u ≤ 100) ∧
    ∀ (w : List Token) (p q : Program), IsProgram w p → IsProgram w q → p = q := by
  constructor
  · intro ts p
    constructor
    · intro h
      have hread := explains_readProgram (finishOf ts) ts
      rw [← ofTokens_eq_readProgram, h] at hread
      obtain ⟨w, rest, hts, hp, hd, heof⟩ := hread
      exact ⟨w, rest, hts, (current_kind_eq_eof_iff _ _).mp heof, hp, hp.open_le_iff.mpr hd⟩
    · rintro ⟨w, rest, rfl, hrest, hp, hopen⟩
      have heof := (current_kind_eq_eof_iff (finishOf (w ++ rest)) rest).mpr hrest
      rw [ofTokens_eq_readProgram]
      exact readProgram_eq_ok hp (hp.open_le_iff.mp hopen) heof
  · intro w p q hp hq
    exact hp.unique hq

end LineCalc.Grammar
