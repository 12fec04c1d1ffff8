import LineCalc.Proofs.Rejection

/-!
# Reading expressions

A reader of a phrase returns the tree of the longest phrase at the front of its
tokens, or the error with which the grammar rejects a token. Both directions are
shown: every result of a reader has a derivation or a rejection behind it, and
every derivation and every rejection is found by the reader.

## Implementation notes

The lemmas speak of the tokens a reader leaves without the bound on their number,
which only serves its termination. An operator loop is entered with the tree of
the operands before it, so a chain can be followed from its left end although it
is derived at its right end.
-/

namespace LineCalc.Parser

open Grammar

variable {α : Type} {n : Nat} {finish : Int}

/-- The result of a reader without the bound on the tokens it leaves. -/
def outcome (r : Except ParseError (α × Rest n)) : Except ParseError (α × List Token) :=
  match r with
  | .error x => .error x
  | .ok (a, rest) => .ok (a, rest.1)

theorem eq_error_of_outcome {r : Except ParseError (α × Rest n)} {x : ParseError}
    (h : outcome r = .error x) : r = .error x := by
  cases r with
  | error y =>
      cases h
      rfl
  | ok p => cases h

theorem eq_ok_of_outcome {r : Except ParseError (α × Rest n)} {a : α} {rest : List Token}
    (h : outcome r = .ok (a, rest)) : ∃ hlt, r = .ok (a, ⟨rest, hlt⟩) := by
  cases r with
  | error y => cases h
  | ok p =>
      cases h
      exact ⟨p.2.2, rfl⟩

/-- The loop over operators does not depend on the bound it carries. -/
theorem outcome_chain {m : Nat} (operator? : TokenKind → Option Operator)
    (operand : Reader Expr) (left : Expr) (ts : List Token) (h : ts.length < n)
    (h' : ts.length < m) :
    outcome (chain operator? operand left ts h) =
      outcome (chain operator? operand left ts h') := by
  fun_induction chain operator? operand left ts h with
  | case1 left =>
      rw [chain]
      rfl
  | case2 left token rest _ hop =>
      rw [chain, hop]
      rfl
  | case3 left token rest _ op hop x hx =>
      rw [chain, hop]
      simp only [hx]
      rfl
  | case4 left token rest _ op hop right unread _ hok _ ih =>
      rw [chain, hop]
      simp only [hok]
      exact ih _

/-- The reader of a phrase. -/
def phraseReader (finish : Int) (n : Nat) : Phrase → Reader Expr
  | .primary => primary finish n
  | .level .product => level productOperator? (primary finish n)
  | .level .sum => expression finish n

theorem phraseReader_level (l : Level) :
    phraseReader finish n (.level l) =
      level l.operator? (phraseReader finish n l.operand) := by
  cases l <;> rfl

/-- Read a phrase. -/
def read (finish : Int) (n : Nat) (phrase : Phrase) (ts : List Token) :
    Except ParseError (Expr × List Token) :=
  outcome (phraseReader finish n phrase ts)

/-- Go on with the operators of a level behind a tree that is already read. -/
def loop (finish : Int) (n : Nat) (l : Level) (left : Expr) (ts : List Token) :
    Except ParseError (Expr × List Token) :=
  outcome (chain l.operator? (phraseReader finish n l.operand) left ts (Nat.lt_succ_self _))

theorem read_level_of_ok {l : Level} {ts rest : List Token} {e : Expr}
    (h : read finish n l.operand ts = .ok (e, rest)) :
    read finish n (.level l) ts = loop finish n l e rest := by
  obtain ⟨hlt, h⟩ := eq_ok_of_outcome h
  simp only [read, phraseReader_level, level, h]
  exact outcome_chain _ _ e rest _ _

theorem read_level_of_error {l : Level} {ts : List Token} {x : ParseError}
    (h : read finish n l.operand ts = .error x) : read finish n (.level l) ts = .error x := by
  simp only [read, phraseReader_level, level, eq_error_of_outcome h]
  rfl

theorem loop_of_ends {l : Level} {left : Expr} {ts : List Token}
    (h : l.operator? (current finish ts).kind = none) :
    loop finish n l left ts = .ok (left, ts) := by
  cases ts with
  | nil =>
      rw [loop, chain]
      rfl
  | cons t ts =>
      rw [current_cons] at h
      rw [loop, chain, h]
      rfl

theorem loop_of_ok {l : Level} {left right : Expr} {s : Token} {op : Operator}
    {ts rest : List Token} (hs : Sign l s.kind op)
    (h : read finish n l.operand ts = .ok (right, rest)) :
    loop finish n l left (s :: ts) = loop finish n l (.binary op left right) rest := by
  obtain ⟨hlt, h⟩ := eq_ok_of_outcome h
  rw [loop, chain, operator?_eq_some_iff.mpr hs]
  simp only [h]
  exact outcome_chain _ _ _ rest _ _

theorem loop_of_error {l : Level} {left : Expr} {s : Token} {op : Operator} {ts : List Token}
    {x : ParseError} (hs : Sign l s.kind op) (h : read finish n l.operand ts = .error x) :
    loop finish n l left (s :: ts) = .error x := by
  rw [loop, chain, operator?_eq_some_iff.mpr hs]
  simp only [eq_error_of_outcome h]
  rfl

/-- Where a token other than the end comes next, the list holds it. -/
theorem exists_cons_of_kind {kind : TokenKind} {ts : List Token}
    (h : (current finish ts).kind = kind) (hne : kind ≠ .eof) :
    ∃ t rest, ts = t :: rest ∧ t.kind = kind := by
  cases ts with
  | nil => exact absurd h.symm hne
  | cons t rest => exact ⟨t, rest, rfl, h⟩

theorem take?_of_kind {kind : TokenKind} {t : Token} {ts : List Token} (h : t.kind = kind) :
    take? kind (t :: ts) = some (t, ⟨ts, Nat.lt_succ_self _⟩) := by
  simp [take?, h]

theorem take?_eq_none {kind : TokenKind} {ts : List Token}
    (h : (current finish ts).kind ≠ kind) : take? kind ts = none := by
  cases ts with
  | nil => rfl
  | cons t ts => simpa [take?] using h

theorem read_primary_number {t : Token} {ts : List Token} (h : t.kind = .number) :
    read finish n .primary (t :: ts) = .ok (.literal t.text, ts) := by
  cases n <;> simp [read, phraseReader, primary, primaryWith, h, outcome]

theorem read_primary_name {t : Token} {ts : List Token} (h : t.kind = .ident) :
    read finish n .primary (t :: ts) = .ok (.reference t.text, ts) := by
  cases n <;> simp [read, phraseReader, primary, primaryWith, h, outcome]

theorem read_group_of_ok {o c : Token} {ts rest : List Token} {e : Expr}
    (ho : o.kind = .lparen) (h : read finish n .expression ts = .ok (e, c :: rest))
    (hc : c.kind = .rparen) :
    read finish (n + 1) .primary (o :: ts) = .ok (.group e, rest) := by
  obtain ⟨hlt, h⟩ := eq_ok_of_outcome h
  simp only [phraseReader, expression] at h
  simp [read, phraseReader, primary, primaryWith, ho, h, take?_of_kind hc, outcome]

theorem read_group_of_error {o : Token} {ts : List Token} {x : ParseError}
    (ho : o.kind = .lparen) (h : read finish n .expression ts = .error x) :
    read finish (n + 1) .primary (o :: ts) = .error x := by
  have h := eq_error_of_outcome h
  simp only [phraseReader, expression] at h
  simp [read, phraseReader, primary, primaryWith, ho, h, outcome]

theorem read_group_unclosed {o : Token} {ts rest : List Token} {e : Expr}
    (ho : o.kind = .lparen) (h : read finish n .expression ts = .ok (e, rest))
    (hc : (current finish rest).kind ≠ .rparen) :
    read finish (n + 1) .primary (o :: ts) =
      .error (.unclosedGroup (current finish rest) o.pos) := by
  obtain ⟨hlt, h⟩ := eq_ok_of_outcome h
  simp only [phraseReader, expression] at h
  simp [read, phraseReader, primary, primaryWith, ho, h, take?_eq_none hc, outcome]

theorem read_primary_tooDeep {t : Token} {ts : List Token} (h : t.kind = .lparen) :
    read finish 0 .primary (t :: ts) = .error (.nestingTooDeep t groupLimit) := by
  simp [read, phraseReader, primary, primaryWith, h, outcome]

theorem read_primary_finish {ts : List Token} (h : (current finish ts).kind = .eof) :
    read finish n .primary ts = .error (.unexpectedEnd (current finish ts).pos) := by
  cases ts with
  | nil => cases n <;> rfl
  | cons t ts =>
      rw [current_cons] at h
      cases n <;> simp [read, phraseReader, primary, primaryWith, h, outcome]

theorem read_primary_operand {ts : List Token} (hnumber : (current finish ts).kind ≠ .number)
    (hname : (current finish ts).kind ≠ .ident) (hopen : (current finish ts).kind ≠ .lparen)
    (heof : (current finish ts).kind ≠ .eof) :
    read finish n .primary ts = .error (.unexpectedToken (current finish ts) .operand) := by
  cases ts with
  | nil => exact absurd rfl heof
  | cons t ts =>
      rw [current_cons] at *
      cases hk : t.kind <;> simp only [hk, ne_eq, not_true_eq_false] at hnumber hname hopen heof
      all_goals cases n <;> simp [read, phraseReader, primary, primaryWith, hk, outcome]

/-- A token of this kind does not belong to the last operand of a phrase. -/
def EndsOperand : Phrase → TokenKind → Prop
  | .primary, _ => True
  | .level l, kind => Ends l.operand kind

theorem endsOperand_of_ends {phrase : Phrase} {kind : TokenKind} (h : Ends phrase kind) :
    EndsOperand phrase kind := by
  cases phrase with
  | primary => trivial
  | level l => exact (ends_level_iff.mp h).2

/-- Go on behind the tree of a phrase that may still be continued. -/
def resume (finish : Int) (n : Nat) : Phrase → Expr → List Token →
    Except ParseError (Expr × List Token)
  | .primary, e, ts => .ok (e, ts)
  | .level l, e, ts => loop finish n l e ts

theorem resume_of_ends {phrase : Phrase} {e : Expr} {ts : List Token}
    (h : Ends phrase (current finish ts).kind) : resume finish n phrase e ts = .ok (e, ts) := by
  cases phrase with
  | primary => rfl
  | level l => exact loop_of_ends (ends_level_iff.mp h).1

/-- A reader follows the derivation of a phrase and then goes on behind it. -/
theorem read_append {phrase : Phrase} {w : List Token} {e : Expr} (h : Derives phrase w e)
    (hd : e.groupDepth ≤ n) (ts : List Token)
    (hends : EndsOperand phrase (current finish ts).kind) :
    read finish n phrase (w ++ ts) = resume finish n phrase e ts := by
  induction h generalizing n ts with
  | number h => exact read_primary_number h
  | name h => exact read_primary_name h
  | @group o c w e ho _ hc ih =>
      rw [Expr.groupDepth] at hd
      obtain ⟨m, rfl⟩ : ∃ m, n = m + 1 := ⟨n - 1, by omega⟩
      have hclose : Ends .expression (current finish (c :: ts)).kind :=
        ends_of_closing (by simp [hc]) _
      have hread : read finish m .expression (w ++ c :: ts) = .ok (e, c :: ts) := by
        rw [ih (by omega) _ (endsOperand_of_ends hclose), resume_of_ends hclose]
      have happend : o :: (w ++ [c]) ++ ts = o :: (w ++ c :: ts) := by simp
      rw [happend]
      exact read_group_of_ok ho hread hc
  | operand _ ih =>
      have hread := ih hd ts (endsOperand_of_ends hends)
      rw [resume_of_ends hends] at hread
      exact read_level_of_ok hread
  | @operation l w v e f s op _ hs _ ihw ihv =>
      rw [Expr.groupDepth, Nat.max_le] at hd
      have hleft := ihw hd.1 (s :: (v ++ ts)) hs.ends_operand
      have hright := ihv hd.2 ts (endsOperand_of_ends hends)
      rw [resume_of_ends hends] at hright
      rw [List.append_assoc, List.cons_append, hleft]
      exact loop_of_ok hs hright

/-- A reader returns the tree of a phrase that the next token does not continue. -/
theorem read_eq_ok {phrase : Phrase} {w : List Token} {e : Expr} (h : Derives phrase w e)
    (hd : e.groupDepth ≤ n) {ts : List Token} (hends : Ends phrase (current finish ts).kind) :
    read finish n phrase (w ++ ts) = .ok (e, ts) := by
  rw [read_append h hd ts (endsOperand_of_ends hends), resume_of_ends hends]

/-- A reader reports the error with which the next token is rejected. -/
theorem read_eq_error {phrase : Phrase} {u ts : List Token} {x : ParseError}
    (h : Rejects n phrase u (current finish ts) x) :
    read finish n phrase (u ++ ts) = .error x := by
  generalize ht : current finish ts = t at h
  induction h with
  | finish h =>
      subst ht
      exact read_primary_finish h
  | tooDeep h =>
      subst ht
      obtain ⟨o, rest, rfl, ho⟩ := exists_cons_of_kind h (by decide)
      exact read_primary_tooDeep ho
  | operand hnumber hname hopen heof =>
      subst ht
      exact read_primary_operand hnumber hname hopen heof
  | inner ho _ ih => exact read_group_of_error ho (ih ht)
  | unclosed ho hw hd hend hc =>
      subst ht
      exact read_group_unclosed ho (read_eq_ok hw hd hend) hc
  | first _ ih => exact read_level_of_error (ih ht)
  | @later n l s t w u e op x hw hd hs _ ih =>
      have hleft : read finish n (.level l) (w ++ s :: (u ++ ts)) =
          loop finish n l e (s :: (u ++ ts)) := read_append hw hd _ hs.ends_operand
      rw [List.append_assoc, List.cons_append, hleft]
      exact loop_of_error hs (ih ht)

/-- What a reader may return: the tree of a phrase at the front of its tokens
that the next token does not continue, or the error of a rejected token. -/
def Explains (finish : Int) (n : Nat) (phrase : Phrase) (ts : List Token) :
    Except ParseError (Expr × List Token) → Prop
  | .ok (e, rest) =>
      ∃ w, ts = w ++ rest ∧ Derives phrase w e ∧ e.groupDepth ≤ n ∧
        Ends phrase (current finish rest).kind
  | .error x => ∃ u rest, ts = u ++ rest ∧ Rejects n phrase u (current finish rest) x

/-- The operator loop of a level extends a chain that is already read. -/
theorem explains_loop {l : Level}
    (hoperand : ∀ ts, Explains finish n l.operand ts (read finish n l.operand ts))
    {w : List Token} {e : Expr} (hw : Derives (.level l) w e) (hd : e.groupDepth ≤ n)
    (ts : List Token) (hends : Ends l.operand (current finish ts).kind) :
    Explains finish n (.level l) (w ++ ts) (loop finish n l e ts) := by
  -- The invariant is that the tokens before `ts` derive the tree read so far.
  induction hlen : ts.length using Nat.strongRecOn generalizing w e ts with
  | ind k ih =>
    subst hlen
    cases hop : l.operator? (current finish ts).kind with
    | none =>
        rw [loop_of_ends hop]
        exact ⟨w, rfl, hw, hd, ends_level_iff.mpr ⟨hop, hends⟩⟩
    | some op =>
        have hs := operator?_eq_some_iff.mp hop
        cases ts with
        | nil => cases hs
        | cons s ts =>
            rw [current_cons] at hs
            have hright := hoperand ts
            cases hr : read finish n l.operand ts with
            | error x =>
                rw [hr] at hright
                obtain ⟨u, rest, rfl, hx⟩ := hright
                rw [loop_of_error hs hr]
                exact ⟨w ++ s :: u, rest, by simp, .later hw hd hs hx⟩
            | ok p =>
                obtain ⟨f, rest⟩ := p
                rw [hr] at hright
                obtain ⟨v, rfl, hv, hdv, hend⟩ := hright
                have hd' : (Expr.binary op e f).groupDepth ≤ n := Nat.max_le.mpr ⟨hd, hdv⟩
                have hlt : rest.length < (s :: (v ++ rest)).length := by
                  simp only [List.length_cons, List.length_append]
                  omega
                have h := ih rest.length hlt (.operation hw hs hv) hd' rest hend rfl
                rw [loop_of_ok hs hr]
                simpa only [List.append_assoc, List.cons_append] using h

theorem explains_level {l : Level}
    (hoperand : ∀ ts, Explains finish n l.operand ts (read finish n l.operand ts))
    (ts : List Token) : Explains finish n (.level l) ts (read finish n (.level l) ts) := by
  have hfirst := hoperand ts
  cases hr : read finish n l.operand ts with
  | error x =>
      rw [hr] at hfirst
      obtain ⟨u, rest, rfl, hx⟩ := hfirst
      rw [read_level_of_error hr]
      exact ⟨u, rest, rfl, .first hx⟩
  | ok p =>
      obtain ⟨e, rest⟩ := p
      rw [hr] at hfirst
      obtain ⟨w, rfl, hw, hd, hend⟩ := hfirst
      rw [read_level_of_ok hr]
      exact explains_loop hoperand (.operand hw) hd rest hend

theorem explains_expression
    (hprimary : ∀ ts, Explains finish n .primary ts (read finish n .primary ts))
    (ts : List Token) : Explains finish n .expression ts (read finish n .expression ts) :=
  explains_level (explains_level hprimary) ts

theorem ends_primary (kind : TokenKind) : Ends .primary kind := by
  rintro l ⟨⟩

theorem explains_group {o : Token} {ts : List Token} (ho : o.kind = .lparen)
    (hinner : Explains finish n .expression ts (read finish n .expression ts)) :
    Explains finish (n + 1) .primary (o :: ts) (read finish (n + 1) .primary (o :: ts)) := by
  cases hr : read finish n .expression ts with
  | error x =>
      rw [hr] at hinner
      obtain ⟨u, rest, rfl, hx⟩ := hinner
      rw [read_group_of_error ho hr]
      exact ⟨o :: u, rest, rfl, .inner ho hx⟩
  | ok p =>
      obtain ⟨e, rest⟩ := p
      rw [hr] at hinner
      obtain ⟨w, rfl, hw, hd, hend⟩ := hinner
      by_cases hclose : (current finish rest).kind = .rparen
      · obtain ⟨c, rest, rfl, hc⟩ := exists_cons_of_kind hclose (by decide)
        rw [read_group_of_ok ho hr hc]
        refine ⟨o :: (w ++ [c]), by simp, .group ho hw hc, ?_, ?_⟩
        · exact Nat.succ_le_succ hd
        · exact ends_primary _
      · rw [read_group_unclosed ho hr hclose]
        exact ⟨o :: w, rest, rfl, .unclosed ho hw hd hend hclose⟩

/-- Whatever does not open a group is read or rejected at once. -/
theorem explains_leaf {ts : List Token} (hopen : (current finish ts).kind ≠ .lparen) :
    Explains finish n .primary ts (read finish n .primary ts) := by
  by_cases heof : (current finish ts).kind = .eof
  · rw [read_primary_finish heof]
    exact ⟨[], ts, rfl, .finish heof⟩
  · cases ts with
    | nil => exact absurd rfl heof
    | cons t ts =>
        by_cases hnumber : t.kind = .number
        · rw [read_primary_number hnumber]
          exact ⟨[t], rfl, .number hnumber, Nat.zero_le n, ends_primary _⟩
        · by_cases hname : t.kind = .ident
          · rw [read_primary_name hname]
            exact ⟨[t], rfl, .name hname, Nat.zero_le n, ends_primary _⟩
          · have hr : read finish n .primary (t :: ts) = .error (.unexpectedToken t .operand) :=
              read_primary_operand hnumber hname hopen heof
            rw [hr]
            exact ⟨[], t :: ts, rfl, .operand hnumber hname hopen heof⟩

theorem explains_primary (n : Nat) (ts : List Token) :
    Explains finish n .primary ts (read finish n .primary ts) := by
  -- Only a group goes back to expressions, with one group less to be opened.
  induction n generalizing ts with
  | zero =>
      by_cases hopen : (current finish ts).kind = .lparen
      · obtain ⟨o, ts, rfl, ho⟩ := exists_cons_of_kind hopen (by decide)
        rw [read_primary_tooDeep ho]
        exact ⟨[], o :: ts, rfl, .tooDeep ho⟩
      · exact explains_leaf hopen
  | succ n ih =>
      by_cases hopen : (current finish ts).kind = .lparen
      · obtain ⟨o, ts, rfl, ho⟩ := exists_cons_of_kind hopen (by decide)
        exact explains_group ho (explains_expression ih ts)
      · exact explains_leaf hopen

/-- Every result of reading an expression has a derivation or a rejection behind it. -/
theorem explains_read (finish : Int) (n : Nat) (ts : List Token) :
    Explains finish n .expression ts (read finish n .expression ts) :=
  explains_expression (explains_primary n) ts

/-- Every result of reading a phrase has a derivation or a rejection behind it. -/
theorem explains_phrase (finish : Int) (n : Nat) (phrase : Phrase) (ts : List Token) :
    Explains finish n phrase ts (read finish n phrase ts) := by
  cases phrase with
  | primary => exact explains_primary n ts
  | level l =>
      cases l with
      | product => exact explains_level (explains_primary n) ts
      | sum => exact explains_read finish n ts

end LineCalc.Parser
