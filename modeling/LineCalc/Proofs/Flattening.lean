import LineCalc.Proofs.ErrorLocation

/-!
# Flattening programs

A program is flattened into the kinds of its tokens in order, with the texts of
its numbers and names. Groups are written as groups, and nothing else is: a tree
comes back from its flattened form exactly if each of its operands can stand
where it does without parentheses. These are the trees that the reader returns,
and it returns each of them from every list of tokens that looks like its
flattened form.

## Implementation notes

Which operands can stand where is stated twice, by operations in `Expr.Canonical`
and by levels in `Grammar.Fits`. The first is what a reader of a tree checks, the
second follows the rules of the grammar.
-/

namespace LineCalc

open Grammar LineCalc.Parser

/-- A kind of token, with a text where a tree keeps it. -/
abbrev Symbol := TokenKind × Option String

/-- What a tree keeps of a token: its kind, and the text of a number or a name. -/
def Token.symbol (t : Token) : Symbol :=
  match t.kind with
  | .number => (.number, some t.text)
  | .ident => (.ident, some t.text)
  | kind => (kind, none)

theorem Token.kind_of_symbol {t : Token} {kind : TokenKind} {text? : Option String}
    (h : t.symbol = (kind, text?)) : t.kind = kind := by
  unfold symbol at h
  split at h <;> simp_all

theorem Token.text_of_symbol {t : Token} {kind : TokenKind} {text : String}
    (h : t.symbol = (kind, some text)) : t.text = text := by
  unfold symbol at h
  split at h <;> simp_all

namespace Operator

/-- The kind of token that stands for an operation. -/
def sign : Operator → TokenKind
  | add => .plus
  | sub => .minus
  | mul => .star
  | div => .slash

/-- The level on which an operation stands. -/
def level : Operator → Level
  | add => .sum
  | sub => .sum
  | mul => .product
  | div => .product

end Operator

namespace Expr

/-- The symbols of an expression in order. -/
def flatten : Expr → List Symbol
  | literal text => [(.number, some text)]
  | reference name => [(.ident, some name)]
  | group inner => (.lparen, none) :: (inner.flatten ++ [(.rparen, none)])
  | binary op left right => left.flatten ++ (op.sign, none) :: right.flatten

/-- Whether an expression is a sum or a difference. -/
def isSum : Expr → Bool
  | binary .add _ _ => true
  | binary .sub _ _ => true
  | _ => false

/-- Every operand can stand where it does without parentheses. -/
def Canonical : Expr → Prop
  | literal _ => True
  | reference _ => True
  | group inner => inner.Canonical
  | binary op left right =>
      left.Canonical ∧ right.Canonical ∧
        match op with
        | .add | .sub => right.isSum = false
        | .mul | .div => left.isSum = false ∧ right.isBinary = false

end Expr

/-- The symbols of a definition in order. -/
def Definition.flatten (d : Definition) : List Symbol :=
  (.define, none) :: (.ident, some d.name) :: (.equal, none) ::
    (d.value.flatten ++ [(.semicolon, none)])

namespace Program

/-- The symbols of a program in order. -/
def flatten (p : Program) : List Symbol :=
  p.definitions.flatMap Definition.flatten ++ p.result.flatten

/-- All expressions of a program are canonical, and at most one hundred groups stand
around any part of them. -/
structure Canonical (p : Program) : Prop where
  definitions : ∀ d ∈ p.definitions, d.value.Canonical
  result : p.result.Canonical
  groupDepth_le : p.groupDepth ≤ 100

end Program

namespace Grammar

variable {w : List Token} {e : Expr} {phrase : Phrase}

theorem sign_iff {l : Level} {kind : TokenKind} {op : Operator} :
    Sign l kind op ↔ l = op.level ∧ kind = op.sign := by
  constructor
  · intro h
    cases h <;> exact ⟨rfl, rfl⟩
  · rintro ⟨rfl, rfl⟩
    cases op <;> constructor

/-- An expression that can stand for a phrase without parentheses. -/
def Fits : Phrase → Expr → Prop
  | .level .sum, _ => True
  | .level .product, e => e.isSum = false
  | .primary, e => e.isBinary = false

theorem fits_level {l : Level} (h : Fits l.operand e) : Fits (.level l) e := by
  cases l with
  | sum => trivial
  | product =>
      cases e with
      | binary op left right => cases h
      | _ => rfl

theorem fits_binary (op : Operator) (left right : Expr) :
    Fits (.level op.level) (.binary op left right) := by
  cases op <;> simp [Fits, Operator.level, Expr.isSum]

/-- The operands of an operation fit the level of the operation, as far as they can. -/
theorem canonical_binary_iff {op : Operator} {left right : Expr} :
    (Expr.binary op left right).Canonical ↔
      left.Canonical ∧ right.Canonical ∧ Fits (.level op.level) left ∧
        Fits op.level.operand right := by
  cases op <;> simp [Expr.Canonical, Fits, Operator.level, Level.operand]

theorem Derives.canonical (h : Derives phrase w e) : e.Canonical ∧ Fits phrase e := by
  induction h with
  | number _ => exact ⟨trivial, rfl⟩
  | name _ => exact ⟨trivial, rfl⟩
  | group _ _ _ ih => exact ⟨ih.1, rfl⟩
  | operand _ ih => exact ⟨ih.1, fits_level ih.2⟩
  | operation _ hs _ ihw ihv =>
      obtain ⟨rfl, -⟩ := sign_iff.mp hs
      exact ⟨canonical_binary_iff.mpr ⟨ihw.1, ihv.1, ihw.2, ihv.2⟩, fits_binary _ _ _⟩

theorem Derives.map_symbol (h : Derives phrase w e) : w.map Token.symbol = e.flatten := by
  induction h with
  | number h => simp [Expr.flatten, Token.symbol, h]
  | name h => simp [Expr.flatten, Token.symbol, h]
  | group ho _ hc ih => simp [Expr.flatten, Token.symbol, ho, hc, ih]
  | operand _ ih => exact ih
  | @operation l w v e f s op _ hs _ ihw ihv =>
      have hsign : s.symbol = (op.sign, none) := by
        obtain ⟨-, hkind⟩ := sign_iff.mp hs
        cases op <;> simp [Token.symbol, hkind, Operator.sign]
      simp [Expr.flatten, ihw, ihv, hsign]

/-- An operand of the innermost kind stands for any phrase. -/
theorem Derives.ofOperand (h : Derives .primary w e) (phrase : Phrase) : Derives phrase w e := by
  match phrase with
  | .primary => exact h
  | .level .product => exact .operand h
  | .level .sum => exact .operand (.operand h)

/-- An operation stands for any phrase that it fits. -/
theorem Derives.ofOperation {op : Operator} {left right : Expr}
    (h : Derives (.level op.level) w (.binary op left right))
    (hfits : Fits phrase (.binary op left right)) : Derives phrase w (.binary op left right) := by
  match phrase with
  | .primary => cases hfits
  | .level .product =>
      cases op with
      | add => cases hfits
      | sub => cases hfits
      | mul => exact h
      | div => exact h
  | .level .sum =>
      cases op with
      | add => exact h
      | sub => exact h
      | mul => exact .operand h
      | div => exact .operand h

/-- Tokens that look like a canonical expression are derived as the expression. -/
theorem derives_of_map_symbol (hcanonical : e.Canonical) (hfits : Fits phrase e)
    (hw : w.map Token.symbol = e.flatten) : Derives phrase w e := by
  induction e generalizing phrase w with
  | literal text =>
      obtain ⟨t, _, rfl, ht, hnil⟩ := List.map_eq_cons_iff.mp hw
      cases List.map_eq_nil_iff.mp hnil
      rw [← Token.text_of_symbol ht]
      exact (Derives.number (Token.kind_of_symbol ht)).ofOperand phrase
  | reference name =>
      obtain ⟨t, _, rfl, ht, hnil⟩ := List.map_eq_cons_iff.mp hw
      cases List.map_eq_nil_iff.mp hnil
      rw [← Token.text_of_symbol ht]
      exact (Derives.name (Token.kind_of_symbol ht)).ofOperand phrase
  | group inner ih =>
      obtain ⟨o, _, rfl, ho, hrest⟩ := List.map_eq_cons_iff.mp hw
      obtain ⟨v, _, rfl, hv, hclose⟩ := List.map_eq_append_iff.mp hrest
      obtain ⟨c, _, rfl, hc, hnil⟩ := List.map_eq_cons_iff.mp hclose
      cases List.map_eq_nil_iff.mp hnil
      have hinner : Derives .expression v inner := ih hcanonical trivial hv
      apply Derives.ofOperand
      exact .group (Token.kind_of_symbol ho) hinner (Token.kind_of_symbol hc)
  | binary op left right ihl ihr =>
      obtain ⟨hleft, hright, hfitsl, hfitsr⟩ := canonical_binary_iff.mp hcanonical
      obtain ⟨u, _, rfl, hu, hrest⟩ := List.map_eq_append_iff.mp hw
      obtain ⟨s, v, rfl, hs, hv⟩ := List.map_eq_cons_iff.mp hrest
      have hsign : Sign op.level s.kind op := sign_iff.mpr ⟨rfl, Token.kind_of_symbol hs⟩
      apply Derives.ofOperation _ hfits
      exact .operation (ihl hleft hfitsl hu) hsign (ihr hright hfitsr hv)

/-- The tokens of a phrase are those that look like a canonical expression that
fits the phrase. -/
theorem derives_iff : Derives phrase w e ↔
    e.Canonical ∧ Fits phrase e ∧ w.map Token.symbol = e.flatten := by
  constructor
  · intro h
    exact ⟨h.canonical.1, h.canonical.2, h.map_symbol⟩
  · rintro ⟨hcanonical, hfits, hw⟩
    exact derives_of_map_symbol hcanonical hfits hw

theorem isDefinition_iff {d : Definition} :
    IsDefinition w d ↔ d.value.Canonical ∧ w.map Token.symbol = d.flatten := by
  constructor
  · rintro ⟨hk, ha, hq, hvalue, hs⟩
    obtain ⟨hcanonical, -, hw⟩ := derives_iff.mp hvalue
    refine ⟨hcanonical, ?_⟩
    simp [Definition.flatten, Token.symbol, hk, ha, hq, hs, hw]
  · rintro ⟨hcanonical, hw⟩
    obtain ⟨k, _, rfl, hk, hw⟩ := List.map_eq_cons_iff.mp hw
    obtain ⟨a, _, rfl, ha, hw⟩ := List.map_eq_cons_iff.mp hw
    obtain ⟨q, _, rfl, hq, hw⟩ := List.map_eq_cons_iff.mp hw
    obtain ⟨v, _, rfl, hv, hw⟩ := List.map_eq_append_iff.mp hw
    obtain ⟨s, _, rfl, hs, hnil⟩ := List.map_eq_cons_iff.mp hw
    cases List.map_eq_nil_iff.mp hnil
    have hname : d = ⟨a.text, d.value⟩ := by rw [Token.text_of_symbol ha]
    have hvalue : Derives .expression v d.value := derives_iff.mpr ⟨hcanonical, trivial, hv⟩
    rw [hname]
    exact .intro (Token.kind_of_symbol hk) (Token.kind_of_symbol ha) (Token.kind_of_symbol hq)
      hvalue (Token.kind_of_symbol hs)

/-- The tokens of a program are those that look like its flattened form, if its
expressions are canonical. -/
theorem isProgram_iff {p : Program} :
    IsProgram w p ↔ (∀ d ∈ p.definitions, d.value.Canonical) ∧ p.result.Canonical ∧
      w.map Token.symbol = p.flatten := by
  constructor
  · intro h
    induction h with
    | result h =>
        obtain ⟨hresult, -, hw⟩ := derives_iff.mp h
        simp [Program.flatten, hresult, hw]
    | definition hd _ ih =>
        obtain ⟨hvalue, hv⟩ := isDefinition_iff.mp hd
        obtain ⟨hdefinitions, hresult, hw⟩ := ih
        refine ⟨List.forall_mem_cons.mpr ⟨hvalue, hdefinitions⟩, hresult, ?_⟩
        simp [Program.flatten, hv, hw]
  · obtain ⟨ds, e⟩ := p
    rintro ⟨hdefinitions, hresult, hw⟩
    induction ds generalizing w with
    | nil => exact .result (derives_iff.mpr ⟨hresult, trivial, hw⟩)
    | cons d ds ih =>
        obtain ⟨hd, hds⟩ := List.forall_mem_cons.mp hdefinitions
        simp only [Program.flatten, List.flatMap_cons, List.append_assoc] at hw
        obtain ⟨v, u, rfl, hv, hu⟩ := List.map_eq_append_iff.mp hw
        exact .definition (isDefinition_iff.mpr ⟨hd, hv⟩) (ih hds hresult hu)

end Grammar

/-- Some tokens look like the flattened form of an expression. -/
theorem Expr.exists_map_symbol (e : Expr) : ∃ w : List Token, w.map Token.symbol = e.flatten := by
  induction e with
  | literal text => exact ⟨[⟨.number, text, 0⟩], rfl⟩
  | reference name => exact ⟨[⟨.ident, name, 0⟩], rfl⟩
  | group inner ih =>
      obtain ⟨w, hw⟩ := ih
      refine ⟨⟨.lparen, "(", 0⟩ :: (w ++ [⟨.rparen, ")", 0⟩]), ?_⟩
      simp [flatten, Token.symbol, hw]
  | binary op left right ihl ihr =>
      obtain ⟨w, hw⟩ := ihl
      obtain ⟨v, hv⟩ := ihr
      refine ⟨w ++ ⟨op.sign, op.symbol, 0⟩ :: v, ?_⟩
      cases op <;> simp [flatten, Token.symbol, Operator.sign, hw, hv]

namespace Program

theorem exists_map_symbol (p : Program) : ∃ w : List Token, w.map Token.symbol = p.flatten := by
  obtain ⟨ds, e⟩ := p
  induction ds with
  | nil => exact e.exists_map_symbol
  | cons d ds ih =>
      obtain ⟨u, hu⟩ := ih
      obtain ⟨v, hv⟩ := d.value.exists_map_symbol
      refine ⟨⟨.define, "def", 0⟩ :: ⟨.ident, d.name, 0⟩ :: ⟨.equal, "=", 0⟩ ::
        (v ++ ⟨.semicolon, ";", 0⟩ :: u), ?_⟩
      rw [flatten] at hu
      simp [flatten, Definition.flatten, Token.symbol, hv, hu]

/-- A program is read from a token list exactly if it is canonical and its flattened
form is what stands in front of the end of the list. Every canonical program has
tokens that look like its flattened form, and is read from all of them. -/
theorem ofTokens_inverse_flatten :
    (∀ (ts : List Token) (p : Program), ofTokens ts = .ok p ↔
      p.Canonical ∧ p.flatten = (beforeEnd ts).map Token.symbol) ∧
    ∀ p : Program, p.Canonical →
      (∃ ts : List Token, ts.map Token.symbol = p.flatten) ∧
      ∀ ts : List Token, ts.map Token.symbol = p.flatten → ofTokens ts = .ok p := by
  constructor
  · intro ts p
    rw [ofTokens_eq_ok_iff, isProgram_iff]
    constructor
    · rintro ⟨⟨hdefinitions, hresult, hts⟩, hdepth⟩
      exact ⟨⟨hdefinitions, hresult, hdepth⟩, hts.symm⟩
    · rintro ⟨⟨hdefinitions, hresult, hdepth⟩, hts⟩
      exact ⟨⟨hdefinitions, hresult, hts.symm⟩, hdepth⟩
  · rintro p ⟨hdefinitions, hresult, hdepth⟩
    refine ⟨p.exists_map_symbol, ?_⟩
    intro ts hts
    have hprogram : IsProgram ts p := isProgram_iff.mpr ⟨hdefinitions, hresult, hts⟩
    exact hprogram.ofTokens_eq hdepth

end Program

end LineCalc
