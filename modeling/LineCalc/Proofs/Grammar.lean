import LineCalc.Program.Parser

/-!
# The grammar of programs

The grammar is stated on token lists, apart from the readers. A phrase of an
expression is a primary or a chain of operands joined by the signs of one level;
a chain grows at its right end, so its tree groups to the left. The grammar
itself knows no limit on nested groups. The number of groups that are open at a
point is counted on the tokens, and its maximum over a derivable token list is
the depth of groups in the tree.

## Implementation notes

Both levels of operators follow the same two rules, with the level as an
argument. What binds more tightly than a level is its operand.
-/

namespace LineCalc

/-- The number of groups around the innermost part of an expression. -/
def Expr.groupDepth : Expr → Nat
  | literal _ => 0
  | reference _ => 0
  | group inner => inner.groupDepth + 1
  | binary _ left right => max left.groupDepth right.groupDepth

/-- The largest depth of groups among the expressions of a program. -/
def Program.groupDepth (program : Program) : Nat :=
  program.definitions.foldr (fun definition depth => max definition.value.groupDepth depth)
    program.result.groupDepth

namespace Grammar

/-- The two levels of operators, of which the second binds more tightly. -/
inductive Level where
  | sum
  | product

/-- What a part of an expression can be derived as. -/
inductive Phrase where
  | level (level : Level)
  | primary

/-- An expression is a chain of the outer level. -/
abbrev Phrase.expression : Phrase := .level .sum

/-- A term is a chain of the inner level. -/
abbrev Phrase.term : Phrase := .level .product

/-- The operands of a level. -/
def Level.operand : Level → Phrase
  | sum => .term
  | product => .primary

/-- The signs of a level and the operations they stand for. -/
inductive Sign : Level → TokenKind → Operator → Prop
  | plus : Sign .sum .plus .add
  | minus : Sign .sum .minus .sub
  | star : Sign .product .star .mul
  | slash : Sign .product .slash .div

/-- The tokens of a phrase and its tree. -/
inductive Derives : Phrase → List Token → Expr → Prop
  | number {t : Token} (h : t.kind = .number) : Derives .primary [t] (.literal t.text)
  | name {t : Token} (h : t.kind = .ident) : Derives .primary [t] (.reference t.text)
  | group {o c : Token} {w : List Token} {e : Expr} (ho : o.kind = .lparen)
      (hw : Derives .expression w e) (hc : c.kind = .rparen) :
      Derives .primary (o :: (w ++ [c])) (.group e)
  | operand {l : Level} {w : List Token} {e : Expr} (h : Derives l.operand w e) :
      Derives (.level l) w e
  | operation {l : Level} {w v : List Token} {e f : Expr} {s : Token} {op : Operator}
      (hw : Derives (.level l) w e) (hs : Sign l s.kind op) (hv : Derives l.operand v f) :
      Derives (.level l) (w ++ s :: v) (.binary op e f)

/-- The tokens of a definition: `def`, a name, `=`, an expression, and `;`. -/
inductive IsDefinition : List Token → Definition → Prop
  | intro {k a q s : Token} {w : List Token} {e : Expr} (hk : k.kind = .define)
      (ha : a.kind = .ident) (hq : q.kind = .equal) (hw : Derives .expression w e)
      (hs : s.kind = .semicolon) :
      IsDefinition (k :: a :: q :: (w ++ [s])) ⟨a.text, e⟩

/-- The tokens of a program: definitions, and then one expression. -/
inductive IsProgram : List Token → Program → Prop
  | result {w : List Token} {e : Expr} (h : Derives .expression w e) : IsProgram w ⟨[], e⟩
  | definition {v w : List Token} {d : Definition} {ds : List Definition} {e : Expr}
      (hd : IsDefinition v d) (hp : IsProgram w ⟨ds, e⟩) : IsProgram (v ++ w) ⟨d :: ds, e⟩

/-- A number alone is an expression. -/
theorem Derives.ofNumber {t : Token} (h : t.kind = .number) :
    Derives .expression [t] (.literal t.text) :=
  .operand (.operand (.number h))

/-- The number of open groups after a token, given their number before it. -/
def openAfter (groups : Nat) (t : Token) : Nat :=
  match t.kind with
  | .lparen => groups + 1
  | .rparen => groups - 1
  | _ => groups

/-- The number of groups that some tokens leave open. -/
def openGroups (w : List Token) : Nat := w.foldl openAfter 0

/-- The largest number of groups open at any point of a token list. -/
def peak : Nat → List Token → Nat
  | groups, [] => groups
  | groups, t :: w => max groups (peak (openAfter groups t) w)

theorem le_peak (groups : Nat) (w : List Token) : groups ≤ peak groups w := by
  cases w with
  | nil => exact Nat.le_refl groups
  | cons t w => exact Nat.le_max_left groups _

theorem peak_append (groups : Nat) (u v : List Token) :
    peak groups (u ++ v) = max (peak groups u) (peak (u.foldl openAfter groups) v) := by
  induction u generalizing groups with
  | nil =>
      have h := le_peak groups v
      simp only [List.nil_append, peak, List.foldl_nil]
      omega
  | cons t u ih =>
      simp only [List.cons_append, peak, List.foldl_cons, ih]
      omega

/-- A bound on the groups open at every point is a bound on their maximum. -/
theorem forall_prefix_le_iff_peak_le (groups limit : Nat) (w : List Token) :
    (∀ u, u <+: w → u.foldl openAfter groups ≤ limit) ↔ peak groups w ≤ limit := by
  induction w generalizing groups with
  | nil => simp [peak]
  | cons t w ih =>
      simp only [peak, Nat.max_le, ← ih]
      constructor
      · intro h
        refine ⟨h [] List.nil_prefix, ?_⟩
        intro u hu
        exact h (t :: u) (List.cons_prefix_cons.mpr ⟨rfl, hu⟩)
      · rintro ⟨hg, h⟩ u hu
        cases u with
        | nil => exact hg
        | cons a u =>
            obtain ⟨rfl, htail⟩ := List.cons_prefix_cons.mp hu
            exact h u htail

theorem openAfter_sign {l : Level} {s : Token} {op : Operator} (h : Sign l s.kind op)
    (groups : Nat) : openAfter groups s = groups := by
  unfold openAfter
  generalize s.kind = kind at h
  cases h <;> rfl

/-- A phrase closes the groups it opens, and in between it opens as many at
once as its tree has around its innermost part. -/
theorem Derives.open_peak {phrase : Phrase} {w : List Token} {e : Expr}
    (h : Derives phrase w e) (groups : Nat) :
    w.foldl openAfter groups = groups ∧ peak groups w = groups + e.groupDepth := by
  induction h generalizing groups with
  | number h => simp [openAfter, peak, Expr.groupDepth, h]
  | name h => simp [openAfter, peak, Expr.groupDepth, h]
  | @group o c w e ho _ hc ih =>
      obtain ⟨hw, hp⟩ := ih (groups + 1)
      have hopen : openAfter groups o = groups + 1 := by simp [openAfter, ho]
      have hclose : openAfter (groups + 1) c = groups := by simp [openAfter, hc]
      constructor
      · simp only [List.foldl_cons, List.foldl_append, List.foldl_nil, hopen, hw, hclose]
      · simp only [peak, peak_append, hopen, hw, hp, hclose, Expr.groupDepth]
        omega
  | operand _ ih => exact ih groups
  | operation _ hs _ ihw ihv =>
      obtain ⟨hw, hpw⟩ := ihw groups
      obtain ⟨hv, hpv⟩ := ihv groups
      constructor
      · simp only [List.foldl_append, List.foldl_cons, hw, openAfter_sign hs, hv]
      · simp only [peak_append, peak, hw, hpw, openAfter_sign hs, hpv, Expr.groupDepth]
        omega

theorem IsDefinition.open_peak {w : List Token} {d : Definition} (h : IsDefinition w d)
    (groups : Nat) :
    w.foldl openAfter groups = groups ∧ peak groups w = groups + d.value.groupDepth := by
  obtain ⟨hk, ha, hq, hw, hs⟩ := h
  obtain ⟨ho, hp⟩ := hw.open_peak groups
  constructor
  · simp [openAfter, hk, ha, hq, hs, ho]
  · simp [peak, peak_append, openAfter, hk, ha, hq, hs, ho, hp]

/-- The groups open at once in a program are those of its trees. -/
theorem IsProgram.peak_eq {w : List Token} {p : Program} (h : IsProgram w p) :
    peak 0 w = p.groupDepth := by
  induction h with
  | result h => simpa [Program.groupDepth] using (h.open_peak 0).2
  | definition hd _ ih =>
      obtain ⟨ho, hp⟩ := hd.open_peak 0
      rw [peak_append, ho, hp, ih]
      simp [Program.groupDepth]

/-- The kinds of tokens that occur in expressions. -/
def InExpression (kind : TokenKind) : Prop :=
  kind ≠ .define ∧ kind ≠ .equal ∧ kind ≠ .semicolon ∧ kind ≠ .eof

theorem Sign.inExpression {l : Level} {kind : TokenKind} {op : Operator}
    (h : Sign l kind op) : InExpression kind := by
  cases h <;> simp [InExpression]

/-- An expression holds none of the tokens that structure a program. -/
theorem Derives.inExpression {phrase : Phrase} {w : List Token} {e : Expr}
    (h : Derives phrase w e) : ∀ t ∈ w, InExpression t.kind := by
  induction h with
  | number h => simp [InExpression, h]
  | name h => simp [InExpression, h]
  | group ho _ hc ih =>
      intro t ht
      simp only [List.mem_cons, List.mem_append, List.not_mem_nil, or_false] at ht
      rcases ht with rfl | ht | rfl
      · simp [InExpression, ho]
      · exact ih t ht
      · simp [InExpression, hc]
  | operand _ ih => exact ih
  | operation _ hs _ ihw ihv =>
      intro t ht
      simp only [List.mem_append, List.mem_cons] at ht
      rcases ht with ht | rfl | ht
      · exact ihw t ht
      · exact hs.inExpression
      · exact ihv t ht

theorem Derives.ne_nil {phrase : Phrase} {w : List Token} {e : Expr}
    (h : Derives phrase w e) : w ≠ [] := by
  induction h with
  | operand _ ih => exact ih
  | _ => simp

end Grammar

end LineCalc
