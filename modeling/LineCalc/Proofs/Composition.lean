import LineCalc.Proofs.AcceptedLines
import LineCalc.Proofs.Offsets
import LineCalc.Proofs.StackMachine

/-!
# Putting lines together

A text that reads as a phrase of the grammar does so at every offset and next to
every text that is kept apart from it. Groups and operations can therefore be
built on texts as they are built on trees, and the value of a line that is put
together from the texts of two others is determined by their values.
-/

namespace LineCalc

open Text Lexer Grammar LineCalc.Parser

variable {rule : WordRule}

namespace Grammar

theorem Derives.shift {phrase : Phrase} {w : List Token} {e : Expr} (h : Derives phrase w e)
    (offset : Nat) : Derives phrase (w.map (Token.shift offset)) e :=
  h.relocate (· + offset)

theorem Derives.ofPrimary {w : List Token} {e : Expr} (h : Derives .primary w e) :
    Derives .expression w e :=
  .operand (.operand h)

/-- Two operands that need no operator level between them are joined by any sign. -/
theorem Derives.ofSign {l : Level} {w v : List Token} {e f : Expr} {s : Token} {op : Operator}
    (hw : Derives .primary w e) (hs : Sign l s.kind op) (hv : Derives .primary v f) :
    Derives .expression (w ++ s :: v) (.binary op e f) := by
  cases l with
  | sum => exact .operation hw.ofPrimary hs (.operand hv)
  | product => exact .operand (.operation (.operand hw) hs hv)

theorem Sign.eq_sum {l : Level} {kind : TokenKind} (h : Sign l kind .add) : l = .sum := by
  cases h
  rfl

/-- A sum is continued by one more operand. -/
theorem Derives.ofPlus {l : Level} {w v : List Token} {e f : Expr} {s : Token}
    (hw : Derives .expression w e) (hs : Sign l s.kind .add) (hv : Derives .primary v f) :
    Derives .expression (w ++ s :: v) (.binary .add e f) := by
  obtain rfl := hs.eq_sum
  exact .operation hw hs (.operand hv)

end Grammar

/-- The sign of an operation is a mark and stands for the operation in the grammar. -/
theorem Operator.exists_mark (op : Operator) :
    ∃ c kind l, op.symbol.toList = [c] ∧ (c, kind) ∈ marks ∧ Sign l kind op := by
  cases op with
  | add => exact ⟨'+', .plus, .sum, rfl, by decide, .plus⟩
  | sub => exact ⟨'-', .minus, .sum, rfl, by decide, .minus⟩
  | mul => exact ⟨'*', .star, .product, rfl, by decide, .star⟩
  | div => exact ⟨'/', .slash, .product, rfl, by decide, .slash⟩

/-- Wherever it stands, the text is split into the tokens of a phrase. -/
def Reads (rule : WordRule) (text : List Char) (phrase : Phrase) (e : Expr) : Prop :=
  ∀ pos, ∃ w, Splits rule pos text w ∧ Derives phrase w e

namespace Reads

variable {a b text : List Char} {phrase : Phrase} {e f : Expr}

theorem ofSplits {w : List Token} (h : Splits rule 0 text w) (hd : Derives phrase w e) :
    Reads rule text phrase e := by
  intro pos
  have hshift := h.shift pos
  rw [Nat.zero_add] at hshift
  exact ⟨_, hshift, hd.shift pos⟩

theorem literal {text : String} (h : IsLexeme rule .number text.toList) :
    Reads rule text.toList .primary (.literal text) := by
  intro pos
  have hsplits := @Splits.ofLexeme rule pos .number text.toList h
  rw [String.ofList_toList] at hsplits
  exact ⟨_, hsplits, .number rfl⟩

theorem reference {name : String} (h : IsLexeme rule .ident name.toList) :
    Reads rule name.toList .primary (.reference name) := by
  intro pos
  have hsplits := @Splits.ofLexeme rule pos .ident name.toList h
  rw [String.ofList_toList] at hsplits
  exact ⟨_, hsplits, .name rfl⟩

theorem ofPrimary (h : Reads rule text .primary e) : Reads rule text .expression e := by
  intro pos
  obtain ⟨w, hw, hd⟩ := h pos
  exact ⟨w, hw, hd.ofPrimary⟩

/-- Parentheses around an expression make it a group. -/
theorem group (h : Reads rule text .expression e) :
    Reads rule ('(' :: (text ++ [')'])) .primary (.group e) := by
  intro pos
  obtain ⟨w, hw, hd⟩ := h (pos + 1)
  have hopen : ('(', TokenKind.lparen) ∈ marks := by decide
  have hclose : (')', TokenKind.rparen) ∈ marks := by decide
  have htext := hw.append (separated_mark hclose []) (.mark hclose .nil)
  exact ⟨_, .mark hopen htext, .group rfl hd rfl⟩

/-- Two texts with the sign of an operation between them are read as the operation if
the grammar joins their phrases, with or without blanks around the sign. -/
theorem join {phrase phrase' : Phrase} (op : Operator) (before after : List Char)
    (hbefore : ∀ c ∈ before, isBlank c = true) (hafter : ∀ c ∈ after, isBlank c = true)
    (ha : Reads rule a phrase e) (hb : Reads rule b phrase' f)
    (hjoin : ∀ {l : Level} {w v : List Token} {s : Token}, Derives phrase w e →
      Sign l s.kind op → Derives phrase' v f → Derives .expression (w ++ s :: v) (.binary op e f)) :
    Reads rule (a ++ before ++ op.symbol.toList ++ after ++ b) .expression
      (.binary op e f) := by
  intro pos
  obtain ⟨c, kind, l, hsymbol, hmark, hs⟩ := op.exists_mark
  obtain ⟨w, hw, hdw⟩ := ha pos
  obtain ⟨v, hv, hdv⟩ := hb (pos + a.length + before.length + 1 + after.length)
  let sign : Token := ⟨kind, String.ofList [c], (pos + a.length + before.length : Nat)⟩
  have hsign : Splits rule (pos + a.length) (before ++ c :: (after ++ b)) (sign :: v) :=
    .gap hbefore (.mark hmark (.gap hafter hv))
  have hseparated : Separated (before ++ c :: (after ++ b)) :=
    separated_gap hbefore (separated_mark hmark _)
  refine ⟨w ++ sign :: v, ?_, hjoin hdw hs hdv⟩
  rw [hsymbol]
  simpa only [List.append_assoc, List.cons_append, List.nil_append] using
    hw.append hseparated hsign

/-- Operands are joined by every operation. -/
theorem operation (op : Operator) (before after : List Char)
    (hbefore : ∀ c ∈ before, isBlank c = true) (hafter : ∀ c ∈ after, isBlank c = true)
    (ha : Reads rule a .primary e) (hb : Reads rule b .primary f) :
    Reads rule (a ++ before ++ op.symbol.toList ++ after ++ b) .expression
      (.binary op e f) :=
  join op before after hbefore hafter ha hb fun hw hs hv => hw.ofSign hs hv

end Reads

namespace Line

variable {source : String} {e : Expr}

theorem reads_of_program (h : program rule source = .ok ⟨[], e⟩) :
    Reads rule source.toList .expression e := by
  obtain ⟨w, hw, hp, -⟩ := program_eq_ok_iff.mp h
  cases hp with
  | result hd => exact .ofSplits hw hd

theorem program_of_reads (h : Reads rule source.toList .expression e)
    (hd : e.groupDepth ≤ groupLimit) : program rule source = .ok ⟨[], e⟩ := by
  obtain ⟨w, hw, hderives⟩ := h 0
  exact program_eq_ok_iff.mpr ⟨w, hw, .result hderives, hd⟩

/-- A line that is an expression has the value of the expression without bindings. -/
theorem evaluate_expression {settings : Settings}
    (h : program settings.wordRule source = .ok ⟨[], e⟩) :
    evaluate settings source =
      match e.value (Bindings.empty.semantics settings.division) with
      | .error x => .error (.unplaced (.eval x))
      | .ok v => .ok v := by
  have hprogram : (Program.mk [] e).evaluate settings.division =
      e.value (Bindings.empty.semantics settings.division) :=
    Machine.evaluate_eq_value _ _ _
  cases hvalue : e.value (Bindings.empty.semantics settings.division) with
  | error x => simp only [evaluate, h, hprogram, hvalue]
  | ok v => simp only [evaluate, h, hprogram, hvalue]

/-- A line that is an expression can be put into parentheses without changing its
value, and the values of two such lines determine that of the operation on the
lines in parentheses: the left line fails first, then the right one, then the
operation itself. -/
theorem evaluate_operation_of_groups (settings : Settings) {a : String}
    (ha : program settings.wordRule a = .ok ⟨[], e⟩) (hda : e.groupDepth ≤ 99) :
    evaluate settings ("(" ++ a ++ ")") = evaluate settings a ∧
    ∀ (op : Operator) (b : String) (f : Expr),
      program settings.wordRule b = .ok ⟨[], f⟩ → f.groupDepth ≤ 99 →
      evaluate settings ("(" ++ a ++ ")" ++ op.symbol ++ "(" ++ b ++ ")") =
        match evaluate settings a with
        | .error d => .error d
        | .ok x =>
            match evaluate settings b with
            | .error d => .error d
            | .ok y =>
                match op.apply settings.division x y with
                | .error x => .error (.unplaced (.eval x))
                | .ok z => .ok z := by
  have hgroup := (reads_of_program ha).group
  constructor
  · have hprogram : program settings.wordRule ("(" ++ a ++ ")") = .ok ⟨[], .group e⟩ := by
      apply program_of_reads
      · simpa using hgroup.ofPrimary
      · exact Nat.succ_le_succ hda
    rw [evaluate_expression hprogram, evaluate_expression ha, Expr.value]
  · intro op b f hb hdb
    have hoperation := Reads.operation op [] [] (by simp) (by simp) hgroup
      (reads_of_program hb).group
    have hprogram : program settings.wordRule ("(" ++ a ++ ")" ++ op.symbol ++ "(" ++ b ++ ")") =
        .ok ⟨[], .binary op (.group e) (.group f)⟩ := by
      apply program_of_reads
      · simpa using hoperation
      · exact Nat.max_le.mpr ⟨Nat.succ_le_succ hda, Nat.succ_le_succ hdb⟩
    rw [evaluate_expression hprogram, evaluate_expression ha, evaluate_expression hb]
    simp only [Expr.value]
    cases e.value (Bindings.empty.semantics settings.division) with
    | error x => rfl
    | ok x =>
        cases f.value (Bindings.empty.semantics settings.division) with
        | error y => rfl
        | ok y => rfl

/-- In `(x)/(2 * (y))` the name on the left is missed first. -/
theorem evaluate_quotient_of_unbound :
    program .any "x" = .ok ⟨[], .reference "x"⟩ ∧
    program .any "2 * (y)" = .ok ⟨[], .binary .mul (.literal "2") (.group (.reference "y"))⟩ ∧
    evaluate .standard "(x)" = evaluate .standard "x" ∧
    evaluate .standard "(x)/(2 * (y))" = .error (.unplaced (.eval (.undefinedName "x"))) := by
  have ha : program .any "x" = .ok ⟨[], .reference "x"⟩ := by decide +kernel
  have hb : program .any "2 * (y)" =
      .ok ⟨[], .binary .mul (.literal "2") (.group (.reference "y"))⟩ := by decide +kernel
  have hx : evaluate .standard "x" = .error (.unplaced (.eval (.undefinedName "x"))) :=
    @evaluate_expression _ _ .standard ha
  obtain ⟨hgroup, hoperation⟩ := evaluate_operation_of_groups .standard ha (Nat.zero_le 99)
  have hquotient := hoperation .div _ _ hb (by simp [Expr.groupDepth])
  rw [hx] at hquotient
  exact ⟨ha, hb, hgroup, hquotient⟩

end Line

end LineCalc
