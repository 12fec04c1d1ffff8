import LineCalc.Proofs.Rejection

/-!
# Offsets of tokens

The offset of a token decides nothing while tokens are read. What the grammar
derives, it derives from the tokens at any other offsets, and what it rejects, it
rejects there with the same error, whose offsets are those of the same tokens.
-/

namespace LineCalc

/-- A token at another offset, which depends on the one it had. -/
def Token.relocate (f : Int → Int) (t : Token) : Token := { t with pos := f t.pos }

/-- An error about tokens at other offsets. -/
def ParseError.relocate (f : Int → Int) : ParseError → ParseError
  | unexpectedEnd pos => unexpectedEnd (f pos)
  | unexpectedToken t place => unexpectedToken (t.relocate f) place
  | malformedStatement t expected => malformedStatement (t.relocate f) expected
  | unclosedGroup t openPos => unclosedGroup (t.relocate f) (f openPos)
  | nestingTooDeep t limit => nestingTooDeep (t.relocate f) limit
  | described message pos => described message (f pos)

namespace Grammar

open LineCalc.Parser

variable {u w : List Token} {t : Token} {x : ParseError}

theorem Derives.relocate {phrase : Phrase} {e : Expr} (h : Derives phrase w e)
    (f : Int → Int) : Derives phrase (w.map (Token.relocate f)) e := by
  induction h with
  | @number t h => exact @Derives.number (t.relocate f) h
  | @name t h => exact @Derives.name (t.relocate f) h
  | @group o c w e ho _ hc ih =>
      rw [List.map_cons, List.map_append]
      exact @Derives.group (o.relocate f) (c.relocate f) _ _ ho ih hc
  | operand _ ih => exact .operand ih
  | @operation l w v e g s op _ hs _ ihw ihv =>
      rw [List.map_append, List.map_cons]
      exact @Derives.operation l _ _ e g (s.relocate f) op ihw hs ihv

theorem IsDefinition.relocate {d : Definition} (h : IsDefinition w d) (f : Int → Int) :
    IsDefinition (w.map (Token.relocate f)) d := by
  obtain @⟨k, a, q, s, w, e, hk, ha, hq, hw, hs⟩ := h
  simp only [List.map_cons, List.map_append, List.map_nil]
  exact @IsDefinition.intro (k.relocate f) (a.relocate f) (q.relocate f) (s.relocate f) _ e
    hk ha hq (hw.relocate f) hs

theorem IsProgram.relocate {p : Program} (h : IsProgram w p) (f : Int → Int) :
    IsProgram (w.map (Token.relocate f)) p := by
  induction h with
  | result h => exact .result (h.relocate f)
  | definition hd _ ih =>
      rw [List.map_append]
      exact .definition (hd.relocate f) ih

theorem Rejects.relocate {n : Nat} {phrase : Phrase} (h : Rejects n phrase u t x)
    (f : Int → Int) :
    Rejects n phrase (u.map (Token.relocate f)) (t.relocate f) (x.relocate f) := by
  induction h with
  | @finish n t h => exact @Rejects.finish n (t.relocate f) h
  | @tooDeep t h => exact @Rejects.tooDeep (t.relocate f) h
  | @operand n t hnumber hname hopen heof =>
      exact @Rejects.operand n (t.relocate f) hnumber hname hopen heof
  | @inner n o t u x ho _ ih => exact @Rejects.inner n (o.relocate f) _ _ _ ho ih
  | @unclosed n o t w e ho hw hd hend ht =>
      exact @Rejects.unclosed n (o.relocate f) (t.relocate f) _ e ho (hw.relocate f) hd hend ht
  | first _ ih => exact .first ih
  | @later n l s t w u e op x hw hd hs _ ih =>
      rw [List.map_append, List.map_cons]
      exact @Rejects.later n l (s.relocate f) _ _ _ e op _ (hw.relocate f) hd hs ih

theorem RejectsDefinition.relocate (h : RejectsDefinition u t x) (f : Int → Int) :
    RejectsDefinition (u.map (Token.relocate f)) (t.relocate f) (x.relocate f) := by
  cases h with
  | @name k t hk ht => exact @RejectsDefinition.name (k.relocate f) (t.relocate f) hk ht
  | @equal k a t hk ha ht =>
      exact @RejectsDefinition.equal (k.relocate f) (a.relocate f) (t.relocate f) hk ha ht
  | @value k a q t u x hk ha hq h =>
      exact @RejectsDefinition.value (k.relocate f) (a.relocate f) (q.relocate f) _ _ _
        hk ha hq (h.relocate f)
  | @semicolon k a q t w e hk ha hq hw hd hend ht =>
      exact @RejectsDefinition.semicolon (k.relocate f) (a.relocate f) (q.relocate f)
        (t.relocate f) _ e hk ha hq (hw.relocate f) hd hend ht

/-- Tokens at other offsets are rejected like the tokens themselves. -/
theorem RejectsProgram.relocate (h : RejectsProgram u t x) (f : Int → Int) :
    RejectsProgram (u.map (Token.relocate f)) (t.relocate f) (x.relocate f) := by
  induction h with
  | definition h => exact .definition (h.relocate f)
  | later hd hdepth _ ih =>
      rw [List.map_append]
      exact .later (hd.relocate f) hdepth ih
  | result h ht =>
      refine .result (h.relocate f) ?_
      intro hnil
      exact ht (List.map_eq_nil_iff.mp hnil)
  | @leftover t w e hw hd hend ht =>
      exact @RejectsProgram.leftover (t.relocate f) _ e (hw.relocate f) hd hend ht

end Grammar

end LineCalc
