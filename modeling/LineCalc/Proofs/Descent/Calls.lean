import LineCalc.Proofs.Descent.Points
import LineCalc.Proofs.Reading.Program

/-!
# Calls of the readers

Every call of a reader comes to an end, with the result of the reader. If it succeeds,
it has moved the cursor forward, not past the end of the tokens nor past an end token,
and the counter is what it was. The same holds of every call that is made on the way,
so calls inside groups are nested no deeper than the group limit.

## Implementation notes

The readers know the number of groups that may still be opened and no counter, so a
call at a point is compared with the reader whose number is the limit less the
counter. The points of a call follow the derivation of what is read, and up to an
error they follow the rejection of the token it stands at.
-/

namespace LineCalc.Parser.Descent

open Grammar

variable {tokens : List Token} {pos depth : Nat} {pending : List Frame}

/-- A call of a reader, with the type of what it returns. -/
inductive Call : Type → Type
  | expr (phrase : Phrase) : Call Expr
  | definition : Call Definition

namespace Call

variable {α : Type}

/-- What a call does first. -/
def start : Call α → Control
  | expr phrase => .read phrase
  | definition => .define

/-- What a call does last if it succeeds. -/
def gives : Call α → α → Control
  | expr _, e => .give e
  | definition, d => .defined d

/-- A definition is read where its first word comes next, a phrase anywhere. -/
def MayStart : Call α → TokenKind → Prop
  | expr _, _ => True
  | definition, kind => kind = .define

/-- The result of the reader that is called, if `n` more groups may be opened. The
first word of a definition is passed before its reader begins. -/
def result (finish : Int) (n : Nat) : Call α → List Token → Except ParseError (α × List Token)
  | expr phrase, ts => read finish n phrase ts
  | definition, ts => outcome (Parser.definition finish n ts.tail)

/-- A call that is made at the point `p` ends at the point `last` with a result. If it
succeeds, the cursor has moved forward and not past the end of the tokens, and the
counter and what waits are those of `p`. -/
def EndsAt (call : Call α) (tokens : List Token) (p last : Point) :
    Except ParseError (α × List Token) → Prop
  | .ok (value, rest) =>
      last = ⟨last.pos, p.depth, call.gives value, p.pending⟩ ∧ rest = tokens.drop last.pos ∧
        p.pos < last.pos ∧ last.pos ≤ tokens.length
  | .error x => step tokens last = .error x

end Call

theorem sound_start {α : Type} (call : Call α) (hdepth : depth ≤ groupLimit)
    (hstart : call.MayStart (next tokens pos).kind) :
    Sound tokens pos depth ⟨pos, depth, call.start, []⟩ := by
  have hpassed : tokens.extract pos pos = [] := by simp
  refine ⟨rfl, hdepth, Nat.le_refl pos, ?_, ?_, ?_⟩
  · intro i hi hlt
    exact absurd hlt (Nat.not_lt.mpr hi)
  · rw [hpassed]
    cases call <;> rfl
  · intro hdefine
    cases call with
    | expr phrase => cases hdefine
    | definition => exact hstart

theorem drop_add_length {w rest : List Token} (h : tokens.drop pos = w ++ rest) :
    tokens.drop (pos + w.length) = rest := by
  rw [← List.drop_drop, h, List.drop_left]

theorem drop_succ {t : Token} {rest : List Token} (h : tokens.drop pos = t :: rest) :
    tokens.drop (pos + 1) = rest := drop_add_length (w := [t]) h

theorem step_open {o : Token} {ts : List Token} (hts : tokens.drop pos = o :: ts)
    (ho : o.kind = .lparen) (hd : depth < groupLimit) :
    Step tokens ⟨pos, depth, .read .primary, pending⟩
      ⟨pos + 1, depth + 1, .read .expression, .group o :: pending⟩ := by
  have hlimit : ¬ groupLimit ≤ depth := Nat.not_le.mpr hd
  simp only [Step, step, enter, next_of_drop hts, advance_of_drop hts, ho, if_neg hlimit]

theorem expect_of_kind {kind : TokenKind} {t : Token} {ts : List Token} {control : Control}
    {go : Token → Control} {fail : Token → ParseError} (hts : tokens.drop pos = t :: ts)
    (h : t.kind = kind) :
    expect tokens ⟨pos, depth, control, pending⟩ kind go fail =
      .ok (some ⟨pos + 1, depth, go t, pending⟩) := by
  simp only [expect, next_of_drop hts, advance_of_drop hts, if_pos h]

theorem step_sign {l : Level} {op : Operator} {left : Expr} {s : Token} {ts : List Token}
    (hts : tokens.drop pos = s :: ts) (hs : Sign l s.kind op) :
    Step tokens ⟨pos, depth, .operators l left, pending⟩
      ⟨pos + 1, depth, .read l.operand, .right l op left :: pending⟩ := by
  simp only [Step, step, next_of_drop hts, advance_of_drop hts, operator?_eq_some_iff.mpr hs]

/-- What is done behind a phrase that may still be continued. -/
def afterPhrase : Phrase → Expr → Control
  | .primary, e => .give e
  | .level l, e => .operators l e

theorem reaches_give {phrase : Phrase} {e : Expr} (h : Ends phrase (next tokens pos).kind) :
    Reaches tokens ⟨pos, depth, afterPhrase phrase e, pending⟩
      ⟨pos, depth, .give e, pending⟩ := by
  cases phrase with
  | primary => exact .refl
  | level l =>
      apply Relation.ReflTransGen.single
      simp only [Step, step, afterPhrase, (ends_level_iff.mp h).1]

/-- Behind the inner expression of a group the counter is what it was before the group,
and the closing parenthesis is looked for. -/
theorem reaches_close {o : Token} {ts : List Token} {e : Expr} {behind : Nat}
    (hts : tokens.drop pos = o :: ts) (ho : o.kind = .lparen) (hd : depth < groupLimit)
    (hinner : Reaches tokens ⟨pos + 1, depth + 1, .read .expression, .group o :: pending⟩
      ⟨behind, depth + 1, .give e, .group o :: pending⟩) :
    Reaches tokens ⟨pos, depth, .read .primary, pending⟩
      ⟨behind, depth, .close o e, pending⟩ := by
  have hleave : Step tokens ⟨behind, depth + 1, .give e, .group o :: pending⟩
      ⟨behind, depth, .close o e, pending⟩ := rfl
  exact (hinner.tail hleave).head (step_open hts ho hd)

/-- A call follows the derivation of a phrase at the cursor. -/
theorem reaches_of_derives {phrase : Phrase} {w rest : List Token} {e : Expr}
    (h : Derives phrase w e) (hd : e.groupDepth + depth ≤ groupLimit)
    (hts : tokens.drop pos = w ++ rest)
    (hends : EndsOperand phrase (current (finishOf tokens) rest).kind) :
    Reaches tokens ⟨pos, depth, .read phrase, pending⟩
      ⟨pos + w.length, depth, afterPhrase phrase e, pending⟩ := by
  -- The cursor, the counter and what waits differ from part to part, so the induction
  -- is over all of them; only the part inside a group is read with a higher counter.
  induction h generalizing pos depth pending rest with
  | @number t h =>
      apply Relation.ReflTransGen.single
      simp only [Step, step, enter, next_of_drop hts, advance_of_drop hts, h]
      rfl
  | @name t h =>
      apply Relation.ReflTransGen.single
      simp only [Step, step, enter, next_of_drop hts, advance_of_drop hts, h]
      rfl
  | @group o c w e ho _ hc ih =>
      rw [Expr.groupDepth] at hd
      rw [List.cons_append, List.append_assoc, List.singleton_append] at hts
      have hinner := drop_succ hts
      have hclose := drop_add_length hinner
      have hend : Ends .expression c.kind := ends_of_closing (by simp [hc]) _
      have hread : Reaches tokens ⟨pos + 1, depth + 1, .read .expression, .group o :: pending⟩
          ⟨pos + 1 + w.length, depth + 1, afterPhrase .expression e, .group o :: pending⟩ :=
        ih (by omega) hinner (endsOperand_of_ends hend)
      have hgive := hread.trans (reaches_give (by rwa [next_of_drop hclose]))
      have hlast : Step tokens ⟨pos + 1 + w.length, depth, .close o e, pending⟩
          ⟨pos + 1 + w.length + 1, depth, .give (.group e), pending⟩ := by
        simp only [Step, step, expect_of_kind hclose hc]
      have hlength : pos + (o :: (w ++ [c])).length = pos + 1 + w.length + 1 := by
        simp only [List.length_cons, List.length_append, List.length_nil]
        omega
      rw [hlength]
      exact (reaches_close hts ho (by omega) hgive).tail hlast
  | @operand l w e _ ih =>
      have hfirst : Step tokens ⟨pos, depth, .read (.level l), pending⟩
          ⟨pos, depth, .read l.operand, .first l :: pending⟩ := rfl
      have hread : Reaches tokens ⟨pos, depth, .read l.operand, .first l :: pending⟩
          ⟨pos + w.length, depth, afterPhrase l.operand e, .first l :: pending⟩ :=
        ih hd hts (endsOperand_of_ends hends)
      have hgive := hread.trans (reaches_give (by rwa [next_eq (drop_add_length hts)]))
      exact (hgive.tail rfl).head hfirst
  | @operation l w v e f s op _ hs _ ihw ihv =>
      rw [Expr.groupDepth] at hd
      rw [List.append_assoc, List.cons_append] at hts
      have hsign := drop_add_length hts
      have hright := drop_succ hsign
      have hlength : pos + (w ++ s :: v).length = pos + w.length + 1 + v.length := by
        simp only [List.length_append, List.length_cons]
        omega
      have hleft : Reaches tokens ⟨pos, depth, .read (.level l), pending⟩
          ⟨pos + w.length, depth, .operators l e, pending⟩ :=
        ihw (by omega) hts hs.ends_operand
      have hread : Reaches tokens
          ⟨pos + w.length + 1, depth, .read l.operand, .right l op e :: pending⟩
          ⟨pos + w.length + 1 + v.length, depth, afterPhrase l.operand f,
            .right l op e :: pending⟩ :=
        ihv (by omega) hright (endsOperand_of_ends hends)
      have hgive := hread.trans (reaches_give (by rwa [next_eq (drop_add_length hright)]))
      rw [hlength]
      exact hleft.trans ((hgive.tail rfl).head (step_sign hsign hs))

theorem reaches_give_of_derives {phrase : Phrase} {w rest : List Token} {e : Expr}
    (h : Derives phrase w e) (hd : e.groupDepth + depth ≤ groupLimit)
    (hts : tokens.drop pos = w ++ rest)
    (hends : Ends phrase (current (finishOf tokens) rest).kind) :
    Reaches tokens ⟨pos, depth, .read phrase, pending⟩
      ⟨pos + w.length, depth, .give e, pending⟩ := by
  have hread : Reaches tokens ⟨pos, depth, .read phrase, pending⟩
      ⟨pos + w.length, depth, afterPhrase phrase e, pending⟩ :=
    reaches_of_derives h hd hts (endsOperand_of_ends hends)
  exact hread.trans (reaches_give (by rwa [next_eq (drop_add_length hts)]))

theorem expect_of_kind_ne {kind : TokenKind} {rest : List Token} {control : Control}
    {go : Token → Control} {fail : Token → ParseError} (hts : tokens.drop pos = rest)
    (h : (current (finishOf tokens) rest).kind ≠ kind) :
    expect tokens ⟨pos, depth, control, pending⟩ kind go fail =
      .error (fail (current (finishOf tokens) rest)) := by
  simp only [expect, next_eq hts, if_neg h]

/-- The points from here lead to an error. -/
def Fails (tokens : List Token) (p : Point) (x : ParseError) : Prop :=
  ∃ last, Reaches tokens p last ∧ step tokens last = .error x

theorem Fails.of_reaches {p q : Point} {x : ParseError} (h : Reaches tokens p q)
    (hq : Fails tokens q x) : Fails tokens p x := by
  obtain ⟨last, hlast, hx⟩ := hq
  exact ⟨last, h.trans hlast, hx⟩

/-- A call follows the rejection of a token up to its error. -/
theorem fails_of_rejects {n : Nat} {phrase : Phrase} {u rest : List Token} {x : ParseError}
    (h : Rejects n phrase u (current (finishOf tokens) rest) x) (hn : n + depth = groupLimit)
    (hts : tokens.drop pos = u ++ rest) :
    Fails tokens ⟨pos, depth, .read phrase, pending⟩ x := by
  generalize ht : current (finishOf tokens) rest = t at h
  induction h generalizing pos depth pending with
  | @finish n t h =>
      have hnext : next tokens pos = t := (next_eq hts).trans ht
      exact ⟨_, .refl, by simp only [step, enter, hnext, h]⟩
  | @tooDeep t h =>
      have hnext : next tokens pos = t := (next_eq hts).trans ht
      have hlimit : groupLimit ≤ depth := by omega
      exact ⟨_, .refl, by simp only [step, enter, hnext, h, if_pos hlimit]⟩
  | @operand n t hnumber hname hopen heof =>
      have hnext : next tokens pos = t := (next_eq hts).trans ht
      refine ⟨_, .refl, ?_⟩
      simp only [step, enter, hnext]
  | @inner n o t u x ho _ ih =>
      have hopen : Step tokens ⟨pos, depth, .read .primary, pending⟩
          ⟨pos + 1, depth + 1, .read .expression, .group o :: pending⟩ :=
        step_open hts ho (by omega)
      exact .of_reaches (.single hopen) (ih (by omega) (drop_succ hts) ht)
  | @unclosed n o t w e ho hw hd hend hc =>
      subst ht
      have hinner := drop_succ hts
      have hgive : Reaches tokens ⟨pos + 1, depth + 1, .read .expression, .group o :: pending⟩
          ⟨pos + 1 + w.length, depth + 1, .give e, .group o :: pending⟩ :=
        reaches_give_of_derives hw (by omega) hinner hend
      refine ⟨_, reaches_close hts ho (by omega) hgive, ?_⟩
      simp only [step, expect_of_kind_ne (drop_add_length hinner) hc]
  | first _ ih =>
      exact .of_reaches (.single rfl) (ih hn hts ht)
  | @later n l s t w u e op x hw hd hs _ ih =>
      rw [List.append_assoc, List.cons_append] at hts
      have hsign := drop_add_length hts
      have hleft : Reaches tokens ⟨pos, depth, .read (.level l), pending⟩
          ⟨pos + w.length, depth, .operators l e, pending⟩ :=
        reaches_of_derives hw (by omega) hts hs.ends_operand
      exact .of_reaches (hleft.tail (step_sign hsign hs)) (ih hn (drop_succ hsign) ht)

/-- A call that is made at a point comes to its end with a result. -/
def Call.Completes {α : Type} (call : Call α) (tokens : List Token) (p : Point)
    (r : Except ParseError (α × List Token)) : Prop :=
  ∃ last, Reaches tokens p last ∧ call.EndsAt tokens p last r

theorem completes_expr (phrase : Phrase) (hdepth : depth ≤ groupLimit) :
    (Call.expr phrase).Completes tokens ⟨pos, depth, .read phrase, pending⟩
      (read (finishOf tokens) (groupLimit - depth) phrase (tokens.drop pos)) := by
  have hresult := explains_phrase (finishOf tokens) (groupLimit - depth) phrase (tokens.drop pos)
  cases hr : read (finishOf tokens) (groupLimit - depth) phrase (tokens.drop pos) with
  | error x =>
      rw [hr] at hresult
      obtain ⟨u, rest, hts, hx⟩ := hresult
      exact fails_of_rejects hx (by omega) hts
  | ok r =>
      obtain ⟨e, rest⟩ := r
      rw [hr] at hresult
      obtain ⟨w, hts, hw, hd, hends⟩ := hresult
      have hreach : Reaches tokens ⟨pos, depth, .read phrase, pending⟩
          ⟨pos + w.length, depth, .give e, pending⟩ :=
        reaches_give_of_derives hw (by omega) hts hends
      have hlength : tokens.length - pos = w.length + rest.length := by
        rw [← List.length_drop, hts, List.length_append]
      have hforward : 0 < w.length := List.length_pos_iff.mpr hw.ne_nil
      have hinside : pos + w.length ≤ tokens.length := by omega
      exact ⟨_, hreach, rfl, (drop_add_length hts).symm, Nat.lt_add_of_pos_right hforward, hinside⟩

theorem step_define {k : Token} {ts : List Token} (hts : tokens.drop pos = k :: ts) :
    Step tokens ⟨pos, depth, .define, pending⟩ ⟨pos + 1, depth, .name, pending⟩ := by
  simp only [Step, step, advance_of_drop hts]

theorem step_name {a : Token} {ts : List Token} (hts : tokens.drop pos = a :: ts)
    (ha : a.kind = .ident) :
    Step tokens ⟨pos, depth, .name, pending⟩ ⟨pos + 1, depth, .equal a, pending⟩ := by
  simp only [Step, step, expect_of_kind hts ha]

/-- The value of a definition and the semicolon behind it. -/
theorem completes_definition_value {k a q : Token} {ts : List Token}
    (hts : tokens.drop pos = k :: a :: q :: ts) (ha : a.kind = .ident) (hq : q.kind = .equal)
    (hdepth : depth ≤ groupLimit) :
    Call.definition.Completes tokens ⟨pos, depth, .define, pending⟩
      (outcome (definition (finishOf tokens) (groupLimit - depth) (a :: q :: ts))) := by
  have hname := drop_succ hts
  have hequal := drop_succ hname
  have hstep : Step tokens ⟨pos + 1 + 1, depth, .equal a, pending⟩
      ⟨pos + 1 + 1 + 1, depth, .value a, pending⟩ := by
    simp only [Step, step, expect_of_kind hequal hq]
  have hvalue : Reaches tokens ⟨pos, depth, .define, pending⟩
      ⟨pos + 1 + 1 + 1, depth, .read .expression, .value a :: pending⟩ := by
    apply Relation.ReflTransGen.head (step_define hts)
    apply Relation.ReflTransGen.head (step_name hname ha)
    apply Relation.ReflTransGen.head hstep
    exact .single rfl
  obtain ⟨last, hreach, hends⟩ := @completes_expr tokens (pos + 1 + 1 + 1) depth
    (.value a :: pending) .expression hdepth
  rw [drop_succ hequal] at hends
  cases hr : read (finishOf tokens) (groupLimit - depth) .expression ts with
  | error x =>
      rw [hr] at hends
      rw [definition_of_error ha hq hr]
      exact ⟨last, hvalue.trans hreach, hends⟩
  | ok r =>
      obtain ⟨e, rest⟩ := r
      rw [hr] at hends
      obtain ⟨hlast, hrest, hforward, hinside⟩ := hends
      have hsemicolon : Reaches tokens ⟨pos, depth, .define, pending⟩
          ⟨last.pos, depth, .semicolon a e, pending⟩ := by
        rw [hlast] at hreach
        exact (hvalue.trans hreach).tail rfl
      by_cases hs : (current (finishOf tokens) rest).kind = .semicolon
      · obtain ⟨s, rest, rfl, hs⟩ := exists_cons_of_kind hs (by decide)
        have hdefined : Step tokens ⟨last.pos, depth, .semicolon a e, pending⟩
            ⟨last.pos + 1, depth, .defined ⟨a.text, e⟩, pending⟩ := by
          simp only [Step, step, expect_of_kind hrest.symm hs]
        rw [definition_of_ok ha hq hr hs]
        refine ⟨_, hsemicolon.tail hdefined, rfl, (drop_succ hrest.symm).symm, ?_,
          lt_length_of_drop hrest.symm⟩
        simp only at hforward ⊢
        omega
      · rw [definition_no_semicolon ha hq hr hs]
        refine ⟨_, hsemicolon, ?_⟩
        simp only [Call.EndsAt, step, expect_of_kind_ne hrest.symm hs]

theorem completes_definition (hdepth : depth ≤ groupLimit)
    (hstart : (next tokens pos).kind = .define) :
    Call.definition.Completes tokens ⟨pos, depth, .define, pending⟩
      (outcome (definition (finishOf tokens) (groupLimit - depth) (tokens.drop pos).tail)) := by
  obtain ⟨k, ts, hts, -⟩ := exists_cons_of_kind hstart (by decide)
  rw [hts, List.tail_cons]
  have hdefine : Step tokens ⟨pos, depth, .define, pending⟩ ⟨pos + 1, depth, .name, pending⟩ :=
    step_define hts
  have hname := drop_succ hts
  by_cases hident : (current (finishOf tokens) ts).kind = .ident
  · obtain ⟨a, ts, rfl, ha⟩ := exists_cons_of_kind hident (by decide)
    by_cases hequal : (current (finishOf tokens) ts).kind = .equal
    · obtain ⟨q, ts, rfl, hq⟩ := exists_cons_of_kind hequal (by decide)
      exact completes_definition_value hts ha hq hdepth
    · rw [definition_no_equal ha hequal]
      refine ⟨_, .head hdefine (.single (step_name hname ha)), ?_⟩
      simp only [Call.EndsAt, step, expect_of_kind_ne (drop_succ hname) hequal]
  · rw [definition_no_name hident]
    refine ⟨_, .single hdefine, ?_⟩
    simp only [Call.EndsAt, step, expect_of_kind_ne hname hident]

/-- A call at any point of a sound run ends with the result of its reader. -/
theorem completes_call {α : Type} (call : Call α) {p : Point} (hp : Sound tokens pos depth p)
    (hcall : p.control = call.start) :
    call.Completes tokens p
      (call.result (finishOf tokens) (groupLimit - p.depth) (tokens.drop p.pos)) := by
  have hdepth := hp.depth_le
  have henters := hp.enters
  obtain ⟨pos, depth, control, pending⟩ := p
  cases call with
  | expr phrase =>
      cases hcall
      exact completes_expr phrase hdepth
  | definition =>
      cases hcall
      exact completes_definition hdepth (henters rfl)

theorem Call.EndsAt.not_step {α : Type} {call : Call α} {last : Point}
    {r : Except ParseError (α × List Token)}
    (h : call.EndsAt tokens ⟨pos, depth, call.start, []⟩ last r) (q : Point) :
    ¬ Step tokens last q := by
  intro hstep
  cases r with
  | error x =>
      have herror : step tokens last = .error x := h
      rw [Step, herror] at hstep
      cases hstep
  | ok r =>
      rw [h.1] at hstep
      cases call <;> cases hstep

/-- What a call does that is made at the cursor `pos` with the counter at `depth`. -/
structure Orderly {α : Type} (call : Call α) (tokens : List Token) (pos depth : Nat) : Prop where
  /-- It comes to a point that no other follows. -/
  halts : ∃ last, Reaches tokens ⟨pos, depth, call.start, []⟩ last ∧ ∀ q, ¬ Step tokens last q
  /-- It and every call that is made on its way end with the results of their readers,
  and in between the cursor passes no end token. -/
  completes : ∀ {β : Type} (inner : Call β) (p : Point),
    Reaches tokens ⟨pos, depth, call.start, []⟩ p → p.control = inner.start →
      ∃ last, Reaches tokens p last ∧ Clear tokens p.pos last.pos ∧
        inner.EndsAt tokens p last
          (inner.result (finishOf tokens) (groupLimit - p.depth) (tokens.drop p.pos))
  /-- At every point the counter is what it was and one more for each group whose inner
  expression is being read, and it stays within the limit. -/
  sound : ∀ p, Reaches tokens ⟨pos, depth, call.start, []⟩ p → Sound tokens pos depth p
  /-- Calls inside groups are nested at most one hundred deep. -/
  nested : ∀ p, Reaches tokens ⟨pos, depth, call.start, []⟩ p → p.groups ≤ 100

/-- Every call terminates with the result of its reader, moves forward and restores the
counter if it succeeds, and never counts more groups than the limit allows. -/
theorem orderly_of_depth_le {α : Type} (call : Call α) (tokens : List Token) (pos : Nat)
    {depth : Nat} (hdepth : depth ≤ groupLimit)
    (hstart : call.MayStart (next tokens pos).kind) : Orderly call tokens pos depth := by
  have hsound := sound_start call hdepth hstart
  refine ⟨?_, ?_, ?_, ?_⟩
  · obtain ⟨last, hreach, hends⟩ := completes_call call hsound rfl
    exact ⟨last, hreach, hends.not_step⟩
  · intro β inner p hp hcall
    have hinner := hsound.reaches hp
    obtain ⟨last, hreach, hends⟩ := completes_call inner hinner hcall
    refine ⟨last, hreach, ?_, hends⟩
    intro i hi hlt
    exact (hinner.reaches hreach).clear i (Nat.le_trans hinner.forward hi) hlt
  · intro p hp
    exact hsound.reaches hp
  · intro p hp
    have hcounter := (hsound.reaches hp).depth_eq
    have hlimit : p.depth ≤ 100 := (hsound.reaches hp).depth_le
    omega

/-- Two groups side by side, and both are the last that may be opened. -/
theorem orderly_side_by_side :
    let tokens : List Token := [⟨.lparen, "(", 0⟩, ⟨.define, "def", 1⟩, ⟨.ident, "x", 5⟩,
      ⟨.equal, "=", 7⟩, ⟨.lparen, "(", 9⟩, ⟨.number, "1", 10⟩, ⟨.rparen, ")", 11⟩,
      ⟨.slash, "/", 12⟩, ⟨.lparen, "(", 13⟩, ⟨.ident, "y", 14⟩, ⟨.rparen, ")", 15⟩,
      ⟨.semicolon, ";", 16⟩, ⟨.eof, "", 17⟩, ⟨.rparen, ")", 17⟩]
    99 ≤ groupLimit ∧ Call.definition.MayStart (next tokens 1).kind ∧
      Call.definition.result (finishOf tokens) (groupLimit - 99) (tokens.drop 1) =
        .ok (⟨"x", .binary .div (.group (.literal "1")) (.group (.reference "y"))⟩,
          tokens.drop 12) ∧
      Orderly Call.definition tokens 1 99 :=
  ⟨by decide, rfl, by cbv, orderly_of_depth_le _ _ 1 (by decide) rfl⟩

end LineCalc.Parser.Descent
