import LineCalc.Proofs.Grammar

/-!
# Rejected tokens

A token list that is not a program has a longest part at its front that could
still become one. The token behind that part is rejected, and the error to be
reported depends on the rules of the grammar that are under way. The relations
below say which token is rejected after which tokens, and with which error.
They are the counterpart of the grammar for inputs that are not programs.

## Implementation notes

The first argument of a rejection inside an expression is the number of groups
that may still be opened. A token that ends the input is rejected like any
other, so the end of a token list needs no rules of its own.
-/

namespace LineCalc.Grammar

open LineCalc.Parser

/-- The operation a kind of token stands for on a level. -/
def Level.operator? : Level → TokenKind → Option Operator
  | sum => sumOperator?
  | product => productOperator?

theorem operator?_eq_some_iff {l : Level} {kind : TokenKind} {op : Operator} :
    l.operator? kind = some op ↔ Sign l kind op := by
  constructor
  · intro h
    cases l <;> cases kind <;> cases h <;> constructor
  · intro h
    cases h <;> rfl

/-- The levels whose signs can continue a phrase. -/
def Phrase.levels : Phrase → List Level
  | level .sum => [.sum, .product]
  | level .product => [.product]
  | primary => []

theorem Phrase.levels_level (l : Level) :
    (Phrase.level l).levels = l :: l.operand.levels := by
  cases l <;> rfl

/-- A token of this kind cannot continue a phrase. -/
def Ends (phrase : Phrase) (kind : TokenKind) : Prop :=
  ∀ l ∈ phrase.levels, ∀ op, ¬ Sign l kind op

theorem ends_level_iff {l : Level} {kind : TokenKind} :
    Ends (.level l) kind ↔ l.operator? kind = none ∧ Ends l.operand kind := by
  simp [Ends, Phrase.levels_level, Option.eq_none_iff_forall_ne_some, operator?_eq_some_iff]

/-- The sign of a level stands behind a complete operand of the level. -/
theorem Sign.ends_operand {l : Level} {kind : TokenKind} {op : Operator} (h : Sign l kind op) :
    Ends l.operand kind := by
  rintro l' hl op' h'
  cases h <;> cases h' <;> simp [Level.operand, Phrase.levels] at hl

/-- The tokens that stand behind a complete expression do not continue it. -/
theorem ends_of_closing {kind : TokenKind} (h : kind ∈ [.rparen, .semicolon, .eof])
    (phrase : Phrase) : Ends phrase kind := by
  rintro l - op hs
  cases hs <;> simp at h

/-- After `u`, the token `t` is rejected while a phrase is being read in which
`groups` more groups may be opened. -/
inductive Rejects : (groups : Nat) → Phrase → (u : List Token) → (t : Token) → ParseError → Prop
  | finish {n : Nat} {t : Token} (h : t.kind = .eof) :
      Rejects n .primary [] t (.unexpectedEnd t.pos)
  | tooDeep {t : Token} (h : t.kind = .lparen) :
      Rejects 0 .primary [] t (.nestingTooDeep t groupLimit)
  | operand {n : Nat} {t : Token} (hnumber : t.kind ≠ .number) (hname : t.kind ≠ .ident)
      (hopen : t.kind ≠ .lparen) (heof : t.kind ≠ .eof) :
      Rejects n .primary [] t (.unexpectedToken t .operand)
  | inner {n : Nat} {o t : Token} {u : List Token} {x : ParseError} (ho : o.kind = .lparen)
      (h : Rejects n .expression u t x) : Rejects (n + 1) .primary (o :: u) t x
  | unclosed {n : Nat} {o t : Token} {w : List Token} {e : Expr} (ho : o.kind = .lparen)
      (hw : Derives .expression w e) (hd : e.groupDepth ≤ n) (hend : Ends .expression t.kind)
      (ht : t.kind ≠ .rparen) : Rejects (n + 1) .primary (o :: w) t (.unclosedGroup t o.pos)
  | first {n : Nat} {l : Level} {t : Token} {u : List Token} {x : ParseError}
      (h : Rejects n l.operand u t x) : Rejects n (.level l) u t x
  | later {n : Nat} {l : Level} {s t : Token} {w u : List Token} {e : Expr} {op : Operator}
      {x : ParseError} (hw : Derives (.level l) w e) (hd : e.groupDepth ≤ n)
      (hs : Sign l s.kind op) (h : Rejects n l.operand u t x) :
      Rejects n (.level l) (w ++ s :: u) t x

/-- The tokens before a rejected one are those of an expression. -/
theorem Rejects.inExpression {n : Nat} {phrase : Phrase} {u : List Token} {t : Token}
    {x : ParseError} (h : Rejects n phrase u t x) : ∀ a ∈ u, InExpression a.kind := by
  induction h with
  | finish _ => simp
  | tooDeep _ => simp
  | operand _ _ _ _ => simp
  | inner ho _ ih =>
      rintro a (_ | ⟨_, ha⟩)
      · simp [InExpression, ho]
      · exact ih a ha
  | unclosed ho hw _ _ _ =>
      rintro a (_ | ⟨_, ha⟩)
      · simp [InExpression, ho]
      · exact hw.inExpression a ha
  | first _ ih => exact ih
  | later hw _ hs _ ih =>
      intro a ha
      simp only [List.mem_append, List.mem_cons] at ha
      rcases ha with ha | rfl | ha
      · exact hw.inExpression a ha
      · exact hs.inExpression
      · exact ih a ha

/-- After `u`, the token `t` is rejected while a definition is being read. -/
inductive RejectsDefinition : (u : List Token) → (t : Token) → ParseError → Prop
  | name {k t : Token} (hk : k.kind = .define) (ht : t.kind ≠ .ident) :
      RejectsDefinition [k] t (.malformedStatement t .name)
  | equal {k a t : Token} (hk : k.kind = .define) (ha : a.kind = .ident) (ht : t.kind ≠ .equal) :
      RejectsDefinition [k, a] t (.malformedStatement t (.equal a.text))
  | value {k a q t : Token} {u : List Token} {x : ParseError} (hk : k.kind = .define)
      (ha : a.kind = .ident) (hq : q.kind = .equal) (h : Rejects groupLimit .expression u t x) :
      RejectsDefinition (k :: a :: q :: u) t x
  | semicolon {k a q t : Token} {w : List Token} {e : Expr} (hk : k.kind = .define)
      (ha : a.kind = .ident) (hq : q.kind = .equal) (hw : Derives .expression w e)
      (hd : e.groupDepth ≤ groupLimit) (hend : Ends .expression t.kind)
      (ht : t.kind ≠ .semicolon) :
      RejectsDefinition (k :: a :: q :: w) t (.malformedStatement t (.semicolon a.text))

/-- After `u`, the token `t` is rejected while a program is being read. -/
inductive RejectsProgram : (u : List Token) → (t : Token) → ParseError → Prop
  | definition {t : Token} {u : List Token} {x : ParseError} (h : RejectsDefinition u t x) :
      RejectsProgram u t x
  | later {t : Token} {v u : List Token} {d : Definition} {x : ParseError}
      (hd : IsDefinition v d) (hdepth : d.value.groupDepth ≤ groupLimit)
      (h : RejectsProgram u t x) : RejectsProgram (v ++ u) t x
  | result {t : Token} {u : List Token} {x : ParseError}
      (h : Rejects groupLimit .expression u t x) (ht : u = [] → t.kind ≠ .define) :
      RejectsProgram u t x
  | leftover {t : Token} {w : List Token} {e : Expr} (hw : Derives .expression w e)
      (hd : e.groupDepth ≤ groupLimit) (hend : Ends .expression t.kind) (ht : t.kind ≠ .eof) :
      RejectsProgram w t (.unexpectedToken t .afterExpression)

end LineCalc.Grammar
