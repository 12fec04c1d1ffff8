import LineCalc.Proofs.DivisionPolicies

/-!
# Lines that fail

A line fails in one of three ways: a character belongs to no token, a token is
rejected by the grammar, or the program that was read has no value. Each stage
hands on what keeps the next one from failing in any other way: words are never
missed under the permissive rule, the texts of literals are numbers, and an
operation always finds its operands. What remains is a short list of errors.
-/

namespace LineCalc

open Lexer Grammar LineCalc.Parser

variable {rule : WordRule}

namespace Lexer

theorem eq_strict_of_lexeme? {c : Char} {cs : List Char} (h : lexeme? rule c cs = none) :
    rule = .strict := by
  cases rule with
  | strict => rfl
  | any =>
      unfold lexeme? at h
      split at h
      · cases h
      · split at h <;> cases h

/-- A text that is not split fails at one of its characters, under the strict rule. -/
theorem exists_of_scan_error {pos : Nat} {cs : List Char} {x : LexError}
    (h : scan rule pos cs = .error x) :
    rule = .strict ∧ ∃ u c v, cs = u ++ c :: v ∧
      x = .unrecognized (String.singleton c) (pos + u.length : Nat) := by
  fun_induction scan rule pos cs with
  | case1 pos => cases h
  | case2 pos c rest hblank ih =>
      obtain ⟨hrule, u, d, v, rfl, rfl⟩ := ih h
      refine ⟨hrule, c :: u, d, v, rfl, ?_⟩
      rw [List.length_cons, Nat.add_assoc, Nat.add_comm 1]
  | case3 pos c rest hblank hlexeme =>
      cases h
      exact ⟨eq_strict_of_lexeme? hlexeme, [], c, rest, rfl, rfl⟩
  | case4 pos c rest hblank kind tail hlexeme y hscan ih =>
      cases h
      obtain ⟨hrule, u, d, v, hrest, rfl⟩ := ih hscan
      obtain ⟨after, rfl⟩ := exists_of_lexeme? hlexeme
      rw [List.drop_left] at hrest
      refine ⟨hrule, c :: tail ++ u, d, v, by simp [hrest], ?_⟩
      rw [List.length_append, List.length_cons, Nat.add_assoc pos, Nat.add_comm 1, Nat.add_assoc]
  | case5 => cases h

/-- The numbers among the tokens of a text are decimals. -/
theorem isNumber_of_scan {pos : Nat} {cs : List Char} {ts : List Token}
    (h : scan rule pos cs = .ok ts) : ∀ t ∈ ts, t.kind = .number → IsNumber t.text.toList := by
  obtain ⟨w, hw⟩ := Splits.exists_of_scan h
  obtain rfl := Except.ok.inj (h.symm.trans hw.scan_eq)
  intro t ht hkind
  rcases List.mem_append.mp ht with ht | ht
  · have hlexeme := hw.isLexeme t ht
    rw [hkind] at hlexeme
    exact hlexeme.isNumber
  · cases List.mem_singleton.mp ht
    cases hkind

end Lexer

namespace Grammar

/-- What is reported when the token `t` is rejected after the tokens `u`: every
error names the token, except that an input which ends too early has none to name. -/
inductive Reports (u : List Token) (t : Token) : ParseError → Prop
  | finish (h : t.kind = .eof) : Reports u t (.unexpectedEnd t.pos)
  | unexpected (place : Place) : Reports u t (.unexpectedToken t place)
  | malformed (expected : Expectation) : Reports u t (.malformedStatement t expected)
  | unclosed {o : Token} (ho : o ∈ u) (hopen : o.kind = .lparen) :
      Reports u t (.unclosedGroup t o.pos)
  | tooDeep (limit : Int) : Reports u t (.nestingTooDeep t limit)

theorem Reports.mono {u v : List Token} {t : Token} {x : ParseError} (h : Reports u t x)
    (hsub : u ⊆ v) : Reports v t x := by
  cases h with
  | finish h => exact .finish h
  | unexpected place => exact .unexpected place
  | malformed expected => exact .malformed expected
  | unclosed ho hopen => exact .unclosed (hsub ho) hopen
  | tooDeep limit => exact .tooDeep limit

theorem Rejects.reports {n : Nat} {phrase : Phrase} {u : List Token} {t : Token}
    {x : ParseError} (h : Rejects n phrase u t x) : Reports u t x := by
  induction h with
  | finish h => exact .finish h
  | tooDeep _ => exact .tooDeep groupLimit
  | operand _ _ _ _ => exact .unexpected .operand
  | inner _ _ ih => exact ih.mono (List.subset_cons_self _ _)
  | unclosed ho _ _ _ _ => exact .unclosed List.mem_cons_self ho
  | first _ ih => exact ih
  | later _ _ _ _ ih =>
      apply ih.mono
      intro a ha
      exact List.mem_append_right _ (List.mem_cons_of_mem _ ha)

theorem RejectsProgram.reports {u : List Token} {t : Token} {x : ParseError}
    (h : RejectsProgram u t x) : Reports u t x := by
  induction h with
  | definition h =>
      cases h with
      | @value k a q _ u _ _ _ _ h =>
          exact h.reports.mono (List.subset_append_right [k, a, q] u)
      | _ => exact .malformed _
  | later _ _ _ ih => exact ih.mono (List.subset_append_right _ _)
  | result h _ => exact h.reports
  | leftover _ _ _ _ => exact .unexpected .afterExpression

end Grammar

namespace Line

variable {settings : Settings} {source : String} {d : Diagnostic}

/-- Why a line is not read as a program. -/
inductive Unread (rule : WordRule) (source : String) : Diagnostic → Prop
  | lex {u v : List Char} {c : Char} (hrule : rule = .strict)
      (hsource : source.toList = u ++ c :: v) :
      Unread rule source (.ofError source (.lex (.unrecognized (String.singleton c) u.length)))
  | parse {w u v : List Token} {t : Token} {x : ParseError}
      (hw : Splits rule 0 source.toList w)
      (htokens : w ++ [Token.endAt source.length] = u ++ t :: v) (hx : RejectsProgram u t x) :
      Unread rule source (.ofError source (.parse x))

/-- The tokens of a line are rejected at one of them, which may be its end. -/
theorem exists_rejected {w : List Token} {x : ParseError} {finish : Int}
    (h : Program.ofTokens (w ++ [Token.endAt finish]) = .error x) :
    ∃ u t v, w ++ [Token.endAt finish] = u ++ t :: v ∧ RejectsProgram u t x := by
  have hread := explains_readProgram (finishOf (w ++ [Token.endAt finish]))
    (w ++ [Token.endAt finish])
  rw [← ofTokens_eq_readProgram, h] at hread
  obtain ⟨u, rest, htokens, hx⟩ := hread
  cases rest with
  | cons t v => exact ⟨u, t, v, htokens, hx⟩
  | nil =>
      -- What can still be completed to a program holds no end token.
      obtain ⟨v, p, hp, -⟩ := hx.viable
      rw [List.append_nil] at htokens
      have hend : Token.endAt finish ∈ u ++ v := by simp [← htokens]
      exact absurd rfl (hp.kind_ne_eof _ hend)

theorem unread_of_program (h : program rule source = .error d) : Unread rule source d := by
  cases hscan : Token.scan rule source with
  | error x =>
      simp only [program, tokens, hscan, Except.error.injEq] at h
      obtain ⟨hrule, u, c, v, hsource, rfl⟩ := exists_of_scan_error hscan
      rw [← h, Nat.zero_add]
      exact .lex hrule hsource
  | ok ts =>
      obtain ⟨w, hw⟩ := Splits.exists_of_scan hscan
      rw [program, tokens_of_splits hw] at h
      cases hread : Program.ofTokens (w ++ [Token.endAt source.length]) with
      | ok p => simp [hread] at h
      | error x =>
          simp only [hread, Except.error.injEq] at h
          obtain ⟨u, t, v, htokens, hx⟩ := exists_rejected hread
          rw [← h]
          exact .parse hw htokens hx

/-- A line that fails is not read, or is a program without a value. -/
theorem unread_or_of_evaluate (h : evaluate settings source = .error d) :
    Unread settings.wordRule source d ∨
      ∃ p x, program settings.wordRule source = .ok p ∧
        p.evaluate settings.division = .error x ∧ d = .unplaced (.eval x) := by
  cases hp : program settings.wordRule source with
  | error e =>
      simp only [evaluate, hp, Except.error.injEq] at h
      rw [← h]
      exact Or.inl (unread_of_program hp)
  | ok p =>
      cases hx : p.evaluate settings.division with
      | ok v => simp [evaluate, hp, hx] at h
      | error x =>
          simp only [evaluate, hp, hx, Except.error.injEq] at h
          exact Or.inr ⟨p, x, rfl, hx, h.symm⟩

/-- The errors a line may end with under some settings. -/
inductive PossibleError (settings : Settings) : Error → Prop
  | unrecognized (h : settings.strictLexer = true) (c : Char) (pos : Nat) :
      PossibleError settings (.lex (.unrecognized (String.singleton c) pos))
  | unexpectedEnd (pos : Int) : PossibleError settings (.parse (.unexpectedEnd pos))
  | unexpectedToken (t : Token) (place : Place) :
      PossibleError settings (.parse (.unexpectedToken t place))
  | malformedStatement (t : Token) (expected : Expectation) :
      PossibleError settings (.parse (.malformedStatement t expected))
  | unclosedGroup (t : Token) (openPos : Int) :
      PossibleError settings (.parse (.unclosedGroup t openPos))
  | nestingTooDeep (t : Token) (limit : Int) :
      PossibleError settings (.parse (.nestingTooDeep t limit))
  | undefinedName (name : String) : PossibleError settings (.eval (.undefinedName name))
  | divisionByZero (h : settings.division = .error) (dividend : Float) :
      PossibleError settings (.eval (.divisionByZero dividend))

theorem possibleError_of_unread (h : Unread settings.wordRule source d) :
    PossibleError settings d.error := by
  cases h with
  | lex hrule _ =>
      rw [Diagnostic.ofError_error]
      refine .unrecognized ?_ _ _
      cases hstrict : settings.strictLexer with
      | true => rfl
      | false => simp [Settings.wordRule, hstrict] at hrule
  | parse _ _ hx =>
      rw [Diagnostic.ofError_error]
      cases hx.reports with
      | finish _ => exact .unexpectedEnd _
      | unexpected place => exact .unexpectedToken _ place
      | malformed expected => exact .malformedStatement _ expected
      | unclosed _ _ => exact .unclosedGroup _ _
      | tooDeep limit => exact .nestingTooDeep _ limit

/-- A program whose literals are numbers fails for an unbound name or, if the
policy says so, for a division by zero. -/
theorem possibleError_of_evaluate {p : Program} {x : EvalError} (h : p.Spelled rule)
    (hx : p.evaluate settings.division = .error x) : PossibleError settings (.eval x) := by
  have hname : p.evaluate .ieee = .error x → PossibleError settings (.eval x) := by
    intro hieee
    have hdecides := Program.decides_evaluate h
    rw [hieee] at hdecides
    cases hdecides with
    | unbound _ _ _ => exact .undefinedName _
  cases hdivision : settings.division with
  | ieee =>
      rw [hdivision] at hx
      exact hname hx
  | error =>
      rw [hdivision, Program.evaluate_error_eq, guarded] at hx
      split at hx
      · cases hx
        exact .divisionByZero hdivision _
      · exact hname hx

/-- Every line has a value or ends with one of the possible errors; and every
number among its tokens is a decimal that has a value. -/
theorem evaluate_ok_or_possibleError (settings : Settings) (source : String) :
    ((∃ x, evaluate settings source = .ok x) ∨
      ∃ d, evaluate settings source = .error d ∧ PossibleError settings d.error) ∧
    ∀ ts, Token.scan settings.wordRule source = .ok ts → ∀ t ∈ ts, t.kind = .number →
      IsNumber t.text.toList ∧ ∃ x, literalValue t.text = .ok x := by
  constructor
  · cases heval : evaluate settings source with
    | ok x => exact Or.inl ⟨x, rfl⟩
    | error d =>
        refine Or.inr ⟨d, rfl, ?_⟩
        rcases unread_or_of_evaluate heval with hunread | ⟨p, x, hp, hx, rfl⟩
        · exact possibleError_of_unread hunread
        · exact possibleError_of_evaluate (spelled_of_program hp) hx
  · intro ts hscan t ht hkind
    have hnumber := isNumber_of_scan hscan t ht hkind
    exact ⟨hnumber, literalValue_of_isNumber hnumber⟩

end Line

end LineCalc
