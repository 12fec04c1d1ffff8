import LineCalc.Proofs.Rejection

/-!
# Nesting

The depth of nested parentheses is a property of a text, the depth of nested
groups one of a tree. The first half of this module computes the former for
texts that are put together from balanced parts. The second half shows what
becomes of tokens that derive a tree beyond the group limit: the only thing wrong
with them is their depth, so a parenthesis is rejected for it and nothing else is.
-/

namespace LineCalc

namespace Text

variable {a b text : List Char} {m n limit : Nat}

/-- At no point of the text are more than `limit` parentheses open. -/
def NestsWithin (limit : Nat) (text : List Char) : Prop :=
  ∀ u, u <+: text → u.count '(' ≤ u.count ')' + limit

/-- All parentheses are closed in the end, and at most `depth` of them are open
at once. -/
structure HasNesting (text : List Char) (depth : Nat) : Prop where
  balanced : text.count '(' = text.count ')'
  within_iff : ∀ limit, NestsWithin limit text ↔ depth ≤ limit

theorem nestsWithin_of_not_mem (h : '(' ∉ text) (limit : Nat) : NestsWithin limit text := by
  intro u hu
  rw [List.count_eq_zero.mpr fun hmem => h (hu.subset hmem)]
  exact Nat.zero_le _

/-- Behind a balanced text the parentheses are counted afresh. -/
theorem nestsWithin_append (h : a.count '(' = a.count ')') :
    NestsWithin limit (a ++ b) ↔ NestsWithin limit a ∧ NestsWithin limit b := by
  constructor
  · intro hab
    refine ⟨fun u hu => hab u (hu.trans (List.prefix_append a b)), ?_⟩
    intro v hv
    have hcount := hab (a ++ v) ((List.prefix_append_right_inj a).mpr hv)
    rw [List.count_append, List.count_append] at hcount
    omega
  · rintro ⟨ha, hb⟩ u hu
    rcases List.prefix_or_prefix_of_prefix hu (List.prefix_append a b) with hua | ⟨v, rfl⟩
    · exact ha u hua
    · have hcount := hb v ((List.prefix_append_right_inj a).mp hu)
      rw [List.count_append, List.count_append]
      omega

theorem nestsWithin_open : NestsWithin (limit + 1) ('(' :: text) ↔ NestsWithin limit text := by
  have hcount (u : List Char) : ('(' :: u).count '(' ≤ ('(' :: u).count ')' + (limit + 1) ↔
      u.count '(' ≤ u.count ')' + limit := by
    rw [List.count_cons_self, List.count_cons_of_ne (by decide)]
    omega
  constructor
  · intro h u hu
    exact (hcount u).mp (h ('(' :: u) (List.cons_prefix_cons.mpr ⟨rfl, hu⟩))
  · intro h u hu
    cases u with
    | nil => exact Nat.zero_le _
    | cons c u =>
        obtain ⟨rfl, htail⟩ := List.cons_prefix_cons.mp hu
        exact (hcount u).mpr (h u htail)

theorem not_nestsWithin_zero_open : ¬ NestsWithin 0 ('(' :: text) := by
  intro h
  have hcount := h ['('] (List.cons_prefix_cons.mpr ⟨rfl, List.nil_prefix⟩)
  revert hcount
  decide

theorem HasNesting.plain (hopen : '(' ∉ text) (hclose : ')' ∉ text) : HasNesting text 0 := by
  constructor
  · rw [List.count_eq_zero.mpr hopen, List.count_eq_zero.mpr hclose]
  · intro limit
    exact iff_of_true (nestsWithin_of_not_mem hopen limit) (Nat.zero_le limit)

theorem HasNesting.append (ha : HasNesting a m) (hb : HasNesting b n) :
    HasNesting (a ++ b) (max m n) := by
  constructor
  · rw [List.count_append, List.count_append, ha.balanced, hb.balanced]
  · intro limit
    rw [nestsWithin_append ha.balanced, ha.within_iff, hb.within_iff, Nat.max_le]

theorem HasNesting.parentheses (h : HasNesting text n) :
    HasNesting ('(' :: (text ++ [')'])) (n + 1) := by
  constructor
  · simp [h.balanced]
  · intro limit
    cases limit with
    | zero => exact iff_of_false not_nestsWithin_zero_open (Nat.not_succ_le_zero n)
    | succ limit =>
        have hclose := @nestsWithin_of_not_mem [')'] (by decide) limit
        rw [nestsWithin_open, nestsWithin_append h.balanced, h.within_iff,
          Nat.add_le_add_iff_right, and_iff_left hclose]

end Text

namespace Grammar

open LineCalc.Parser

variable {n : Nat} {w : List Token}

/-- Where a tree is too deep, the first parenthesis beyond the limit is rejected. -/
theorem Derives.rejects_tooDeep {phrase : Phrase} {e : Expr} (h : Derives phrase w e)
    (hd : n < e.groupDepth) :
    ∃ u t v, w = u ++ t :: v ∧ t.kind = .lparen ∧
      Rejects n phrase u t (.nestingTooDeep t groupLimit) := by
  induction h generalizing n with
  | number _ => exact absurd hd (Nat.not_lt_zero n)
  | name _ => exact absurd hd (Nat.not_lt_zero n)
  | @group o c w e ho _ _ ih =>
      cases n with
      | zero => exact ⟨[], o, w ++ [c], rfl, ho, .tooDeep ho⟩
      | succ n =>
          obtain ⟨u, t, v, rfl, ht, hx⟩ := ih (Nat.lt_of_succ_lt_succ hd)
          exact ⟨o :: u, t, v ++ [c], by simp, ht, .inner ho hx⟩
  | operand _ ih =>
      obtain ⟨u, t, v, hw, ht, hx⟩ := ih hd
      exact ⟨u, t, v, hw, ht, .first hx⟩
  | @operation l w v e f s op hw hs _ ihw ihv =>
      by_cases hleft : n < e.groupDepth
      · obtain ⟨u, t, u', rfl, ht, hx⟩ := ihw hleft
        exact ⟨u, t, u' ++ s :: v, by simp, ht, hx⟩
      · have hright : n < f.groupDepth := by
          rw [Expr.groupDepth] at hd
          omega
        obtain ⟨u, t, v', rfl, ht, hx⟩ := ihv hright
        exact ⟨w ++ s :: u, t, v', by simp, ht, .later hw (Nat.not_lt.mp hleft) hs hx⟩

theorem IsDefinition.rejects_tooDeep {d : Definition} (h : IsDefinition w d)
    (hd : groupLimit < d.value.groupDepth) :
    ∃ u t v, w = u ++ t :: v ∧ RejectsDefinition u t (.nestingTooDeep t groupLimit) := by
  obtain @⟨k, a, q, s, w, e, hk, ha, hq, hw, hs⟩ := h
  obtain ⟨u, t, v, rfl, -, hx⟩ := hw.rejects_tooDeep hd
  exact ⟨k :: a :: q :: u, t, v ++ [s], by simp, .value hk ha hq hx⟩

/-- The tokens of a program beyond the group limit are rejected for their depth. -/
theorem IsProgram.rejects_tooDeep {p : Program} (h : IsProgram w p)
    (hd : groupLimit < p.groupDepth) :
    ∃ u t v, w = u ++ t :: v ∧ RejectsProgram u t (.nestingTooDeep t groupLimit) := by
  induction h with
  | result h =>
      obtain ⟨u, t, v, hw, ht, hx⟩ := h.rejects_tooDeep hd
      exact ⟨u, t, v, hw, .result hx (by simp [ht])⟩
  | @definition v w d ds e hv _ ih =>
      by_cases hvalue : groupLimit < d.value.groupDepth
      · obtain ⟨u, t, u', rfl, hx⟩ := hv.rejects_tooDeep hvalue
        exact ⟨u, t, u' ++ w, by simp, .definition hx⟩
      · have hmore : groupLimit < (Program.mk ds e).groupDepth := by
          simp only [Program.groupDepth, List.foldr_cons] at hd ⊢
          omega
        obtain ⟨u, t, u', rfl, hx⟩ := ih hmore
        exact ⟨v ++ u, t, u', by simp, .later hv (Nat.not_lt.mp hvalue) hx⟩

end Grammar

end LineCalc
