import LineCalc.Line
import LineCalc.Proofs.ErrorLocation
import LineCalc.Proofs.Locality

/-!
# Lines that are programs

A line is read as a program if and only if it is split into tokens that the
grammar derives as the program, with its groups within the limit. What the trees
of such a program hold as texts are texts of tokens, so each of them is again one
token wherever it stands alone.
-/

namespace LineCalc

open Lexer Grammar LineCalc.Parser

variable {rule : WordRule} {w : List Token}

/-- Literals are numbers and references are words of the rule. -/
def Expr.Spelled (rule : WordRule) : Expr → Prop
  | literal text => IsLexeme rule .number text.toList
  | reference name => IsLexeme rule .ident name.toList
  | group inner => inner.Spelled rule
  | binary _ left right => left.Spelled rule ∧ right.Spelled rule

/-- The names that are defined are words of the rule, and so is all that the
expressions refer to. -/
structure Program.Spelled (rule : WordRule) (p : Program) : Prop where
  definitions : ∀ d ∈ p.definitions,
    IsLexeme rule .ident d.name.toList ∧ d.value.Spelled rule
  result : p.result.Spelled rule

/-- Every token is one token when its text stands alone. -/
def AllLexemes (rule : WordRule) (w : List Token) : Prop :=
  ∀ t ∈ w, IsLexeme rule t.kind t.text.toList

theorem allLexemes_append {v : List Token} :
    AllLexemes rule (w ++ v) ↔ AllLexemes rule w ∧ AllLexemes rule v :=
  List.forall_mem_append

theorem allLexemes_cons {t : Token} :
    AllLexemes rule (t :: w) ↔ IsLexeme rule t.kind t.text.toList ∧ AllLexemes rule w :=
  List.forall_mem_cons

namespace Grammar

theorem Derives.spelled {phrase : Phrase} {e : Expr} (h : Derives phrase w e)
    (hw : AllLexemes rule w) : e.Spelled rule := by
  induction h with
  | number h =>
      have htoken := (allLexemes_cons.mp hw).1
      rwa [h] at htoken
  | name h =>
      have htoken := (allLexemes_cons.mp hw).1
      rwa [h] at htoken
  | group _ _ _ ih =>
      obtain ⟨-, hw⟩ := allLexemes_cons.mp hw
      exact ih (allLexemes_append.mp hw).1
  | operand _ ih => exact ih hw
  | operation _ _ _ ihw ihv =>
      obtain ⟨hw, hv⟩ := allLexemes_append.mp hw
      exact ⟨ihw hw, ihv (allLexemes_cons.mp hv).2⟩

theorem IsDefinition.spelled {d : Definition} (h : IsDefinition w d) (hw : AllLexemes rule w) :
    IsLexeme rule .ident d.name.toList ∧ d.value.Spelled rule := by
  obtain ⟨-, ha, -, hvalue, -⟩ := h
  simp only [allLexemes_cons, allLexemes_append] at hw
  obtain ⟨-, hname, -, hw, -⟩ := hw
  rw [ha] at hname
  exact ⟨hname, hvalue.spelled hw⟩

theorem IsProgram.spelled {p : Program} (h : IsProgram w p) (hw : AllLexemes rule w) :
    p.Spelled rule := by
  induction h with
  | result h => exact ⟨by simp, h.spelled hw⟩
  | definition hd _ ih =>
      obtain ⟨hv, hw⟩ := allLexemes_append.mp hw
      obtain ⟨hdefinitions, hresult⟩ := ih hw
      exact ⟨List.forall_mem_cons.mpr ⟨hd.spelled hv, hdefinitions⟩, hresult⟩

/-- The tokens of a line are accepted if they are a program up to the end token. -/
theorem ofTokens_append_end_iff {p : Program} (finish : Int) (hw : ∀ t ∈ w, t.kind ≠ .eof) :
    Program.ofTokens (w ++ [Token.endAt finish]) = .ok p ↔
      IsProgram w p ∧ p.groupDepth ≤ groupLimit := by
  have hend : (current finish [Token.endAt finish]).kind = .eof := rfl
  rw [ofTokens_eq_ok_iff, beforeEnd_append hw hend]

end Grammar

namespace Line

variable {source : String} {p : Program}

theorem tokens_of_splits (h : Splits rule 0 source.toList w) :
    tokens rule source = .ok (w ++ [Token.endAt source.length]) := by
  have hscan := h.scan_eq
  rw [Nat.zero_add, String.length_toList] at hscan
  simp only [tokens, Token.scan, hscan]

/-- Whether a line has given tokens can be computed. -/
instance (rule : WordRule) (source : String) (ts : List Token) :
    Decidable (Token.scan rule source = .ok ts) :=
  decidable_of_iff ((Token.scan rule source).toOption = some ts)
    (by cases Token.scan rule source <;> simp [Except.toOption])

/-- Whether a line is a given program can be computed. -/
instance (rule : WordRule) (source : String) (p : Program) :
    Decidable (program rule source = .ok p) :=
  decidable_of_iff ((program rule source).toOption = some p)
    (by cases program rule source <;> simp [Except.toOption])

/-- A line is a program exactly if it is split into the tokens of the program and
its groups stay within the limit. -/
theorem program_eq_ok_iff :
    program rule source = .ok p ↔
      ∃ w, Splits rule 0 source.toList w ∧ IsProgram w p ∧ p.groupDepth ≤ groupLimit := by
  constructor
  · intro h
    cases hscan : Token.scan rule source with
    | error x => simp [program, tokens, hscan] at h
    | ok ts =>
        obtain ⟨w, hw⟩ := Splits.exists_of_scan hscan
        rw [program, tokens_of_splits hw] at h
        cases hread : Program.ofTokens (w ++ [Token.endAt source.length]) with
        | error x => simp [hread] at h
        | ok q =>
            simp only [hread, Except.ok.injEq] at h
            subst h
            exact ⟨w, hw, (ofTokens_append_end_iff _ hw.kind_ne_eof).mp hread⟩
  · rintro ⟨w, hw, hp⟩
    rw [program, tokens_of_splits hw]
    simp only [(ofTokens_append_end_iff _ hw.kind_ne_eof).mpr hp]

/-- A line whose tokens are rejected fails with the error of the rejection. -/
theorem program_eq_error {u v : List Token} {t : Token} {x : ParseError}
    (h : Splits rule 0 source.toList (u ++ t :: v)) (hx : RejectsProgram u t x) :
    program rule source = .error (.ofError source (.parse x)) := by
  have happend : u ++ t :: v ++ [Token.endAt source.length] =
      u ++ (t :: v ++ [Token.endAt source.length]) := List.append_assoc _ _ _
  have hread : Program.ofTokens (u ++ (t :: v ++ [Token.endAt source.length])) = .error x :=
    readProgram_eq_error hx
  rw [program, tokens_of_splits h, happend]
  simp only [hread]

theorem spelled_of_program (h : program rule source = .ok p) : p.Spelled rule := by
  obtain ⟨w, hw, hp, -⟩ := program_eq_ok_iff.mp h
  exact hp.spelled hw.isLexeme

end Line

end LineCalc
