import LineCalc.Proofs.Segmentation

/-!
# Splitting a text piece by piece

A text is split from left to right, so what it is split into can be put together
from its parts. The parts have to meet where no token can reach across: at a
blank, at a mark, or at the end. The relation `Splits` follows the lexer under
either rule on words, without the end token.

## Implementation notes

The lexer decides each token with the rest of the text in view, and the relation
keeps it so. That a separated rest does not matter to that decision is a fact
about single lexemes, and the same fact says that the text of a token is that
token when it stands alone.
-/

namespace LineCalc

/-- A token moved to the right. -/
def Token.shift (offset : Nat) (t : Token) : Token := { t with pos := t.pos + offset }

/-- The characters a word may begin with. -/
def WordRule.begins : WordRule → Char → Bool
  | any => fun _ => true
  | strict => Lexer.isNameStart

/-- The characters that continue a word. -/
def WordRule.continues : WordRule → Char → Bool
  | any => Lexer.isWordChar
  | strict => Lexer.isNameChar

namespace Lexer

open Text Decimal.Literal

variable {rule : WordRule} {pos : Nat} {c : Char} {kind : TokenKind}

theorem wordTail?_eq (rule : WordRule) (c : Char) (cs : List Char) :
    wordTail? rule c cs =
      if rule.begins c then some (cs.takeWhile rule.continues) else none := by
  cases rule <;> rfl

theorem isWordChar_of_isDigit (h : isDigit c = true) : isWordChar c = true := by
  rw [isWordChar_iff]
  refine ⟨isBlank_of_isDigit h, ?_⟩
  rintro ⟨kind, hkind⟩
  rw [(isBlank_of_mark hkind).2] at h
  exact Bool.false_ne_true h

theorem isBlank_of_isNameStart (h : isNameStart c = true) : isBlank c = false := by
  simp only [isNameStart, Bool.or_eq_true, Bool.and_eq_true, decide_eq_true_eq, Char.le_def,
    UInt32.le_iff_toNat_le, beq_iff_eq] at h
  have hrange : 65 ≤ c.toNat ∧ c.toNat ≤ 122 := by
    rcases h with (h | h) | rfl
    · change 65 ≤ c.toNat ∧ c.toNat ≤ 90 at h
      omega
    · change 97 ≤ c.toNat ∧ c.toNat ≤ 122 at h
      omega
    · decide
  simp only [isBlank, Bool.or_eq_false_iff, Bool.and_eq_false_iff, decide_eq_false_iff_not,
    beq_eq_false_iff_ne]
  omega

theorem isWordChar_of_isNameChar (h : isNameChar c = true) : isWordChar c = true := by
  have hmarks : ∀ mark ∈ marks, isNameChar mark.1 = false := by decide
  have hmark : ¬ IsMark c := by
    rintro ⟨kind, hkind⟩
    rw [hmarks _ hkind] at h
    exact Bool.false_ne_true h
  rw [isNameChar, Bool.or_eq_true] at h
  rw [isWordChar_iff]
  refine ⟨?_, hmark⟩
  rcases h with hstart | hdigit
  · exact isBlank_of_isNameStart hstart
  · exact isBlank_of_isDigit hdigit

/-- Under both rules a word holds word characters only. -/
theorem isWordChar_of_continues (h : rule.continues c = true) : isWordChar c = true := by
  cases rule with
  | any => exact h
  | strict => exact isWordChar_of_isNameChar h

/-- A number is made of digits and the point. -/
theorem isDigit_or_point_of_isNumber {text : List Char} (h : IsNumber text) :
    ∀ d ∈ text, isDigit d = true ∨ d = '.' := by
  obtain ⟨digits, -, hdigits, rfl | ⟨fraction, hfraction, rfl⟩⟩ := h
  · exact fun d hd => Or.inl (hdigits d hd)
  · intro d hd
    rcases List.mem_append.mp hd with hd | hd
    · exact Or.inl (hdigits d hd)
    · rcases List.mem_cons.mp hd with rfl | hd
      · exact Or.inr rfl
      · exact Or.inl (hfraction d hd)

theorem isWordChar_of_isNumber {text : List Char} (h : IsNumber text) :
    ∀ d ∈ text, isWordChar d = true := by
  intro d hd
  rcases isDigit_or_point_of_isNumber h d hd with hdigit | rfl
  · exact isWordChar_of_isDigit hdigit
  · decide

/-- The lexer takes a number as far as it goes. -/
theorem exists_numberTail (hdigit : isDigit c = true) (cs : List Char) :
    ∃ rest, cs = numberTail cs ++ rest ∧ IsNumber (c :: numberTail cs) ∧
      ∀ d ∈ rest.head?, ¬ IsNumber (c :: numberTail cs ++ [d]) := by
  obtain ⟨tail, rest, rfl, hnumber, hstop⟩ := exists_number hdigit cs
  rw [(numberTail_append hnumber hstop).2]
  exact ⟨rest, rfl, hnumber, hstop⟩

/-- No token before a text with this front can reach into it. -/
def Separated (cs : List Char) : Prop := ∀ c ∈ cs.head?, isWordChar c = false

theorem separated_blank (h : isBlank c = true) (cs : List Char) : Separated (c :: cs) := by
  simp [Separated, isWordChar, h]

theorem separated_gap {gap cs : List Char} (hgap : ∀ c ∈ gap, isBlank c = true)
    (h : Separated cs) : Separated (gap ++ cs) := by
  cases gap with
  | nil => exact h
  | cons c gap => exact separated_blank (hgap c List.mem_cons_self) _

theorem separated_mark (h : (c, kind) ∈ marks) (cs : List Char) : Separated (c :: cs) := by
  simp [Separated, isWordChar, punctuation?_eq_some_iff.mpr h]

/-- What is no word character at the front of a text stays so when a separated
text is added at its end. -/
theorem Separated.head_append {P : Char → Prop} {after rest : List Char}
    (hrest : Separated rest) (hafter : ∀ d ∈ after.head?, ¬ P d)
    (hP : ∀ d, P d → isWordChar d = true) : ∀ d ∈ (after ++ rest).head?, ¬ P d := by
  cases after with
  | nil =>
      intro d hd h
      have hword := hrest d hd
      rw [hP d h] at hword
      cases hword
  | cons a after => exact hafter

theorem numberTail_append_separated (hdigit : isDigit c = true) (cs : List Char)
    {rest : List Char} (hrest : Separated rest) : numberTail (cs ++ rest) = numberTail cs := by
  obtain ⟨after, hcs, hnumber, hstop⟩ := exists_numberTail hdigit cs
  have hstop' : ∀ d ∈ (after ++ rest).head?, ¬ IsNumber (c :: numberTail cs ++ [d]) :=
    hrest.head_append hstop fun d h => isWordChar_of_isNumber h d (by simp)
  have htail := (numberTail_append hnumber hstop').2
  rwa [← List.append_assoc, ← hcs] at htail

theorem takeWhile_append_separated (rule : WordRule) (cs : List Char) {rest : List Char}
    (hrest : Separated rest) :
    (cs ++ rest).takeWhile rule.continues = cs.takeWhile rule.continues := by
  obtain ⟨body, after, rfl, hbody, hafter⟩ := exists_run rule.continues cs
  have hstop : ∀ d ∈ (after ++ rest).head?, ¬ rule.continues d = true :=
    hrest.head_append (by simpa using hafter) fun d h => isWordChar_of_continues h
  rw [List.append_assoc, (takeWhile_dropWhile_append hbody (by simpa using hstop)).1,
    (takeWhile_dropWhile_append hbody hafter).1]

/-- A separated text does not change the lexeme before it. -/
theorem lexeme?_append (rule : WordRule) (c : Char) (cs : List Char) {rest : List Char}
    (hrest : Separated rest) : lexeme? rule c (cs ++ rest) = lexeme? rule c cs := by
  cases hdigit : isDigit c with
  | true => simp [lexeme?, hdigit, numberTail_append_separated hdigit cs hrest]
  | false => simp [lexeme?, hdigit, wordTail?_eq, takeWhile_append_separated rule cs hrest]

/-- What begins with a character: a number, a mark, or a word. -/
theorem lexeme?_cases {cs tail : List Char} (h : lexeme? rule c cs = some (kind, tail)) :
    (isDigit c = true ∧ kind = .number ∧ tail = numberTail cs) ∨
    ((c, kind) ∈ marks ∧ tail = []) ∨
    (isDigit c = false ∧ ¬ IsMark c ∧ rule.begins c = true ∧
      tail = cs.takeWhile rule.continues ∧ kind = wordKind (c :: tail)) := by
  unfold lexeme? at h
  split at h
  · next hdigit =>
      cases h
      exact Or.inl ⟨hdigit, rfl, rfl⟩
  · next hdigit =>
      split at h
      · next mark hmark =>
          cases h
          exact Or.inr (Or.inl ⟨punctuation?_eq_some_iff.mp hmark, rfl⟩)
      · next hmark =>
          rw [wordTail?_eq] at h
          split at h
          · next hbegins =>
              cases h
              exact Or.inr (Or.inr ⟨Bool.eq_false_iff.mpr hdigit,
                punctuation?_eq_none_iff.mp hmark, hbegins, rfl, rfl⟩)
          · cases h

theorem lexeme?_mark (h : (c, kind) ∈ marks) (cs : List Char) :
    lexeme? rule c cs = some (kind, []) := by
  simp [lexeme?, (isBlank_of_mark h).2, punctuation?_eq_some_iff.mpr h]

/-- A lexeme lies at the front of the text. -/
theorem exists_of_lexeme? {cs tail : List Char} (h : lexeme? rule c cs = some (kind, tail)) :
    ∃ rest, cs = tail ++ rest := by
  rcases lexeme?_cases h with ⟨hdigit, -, rfl⟩ | ⟨-, rfl⟩ | ⟨-, -, -, rfl, -⟩
  · obtain ⟨rest, hcs, -⟩ := exists_numberTail hdigit cs
    exact ⟨rest, hcs⟩
  · exact ⟨cs, rfl⟩
  · exact ⟨cs.dropWhile rule.continues, List.takeWhile_append_dropWhile.symm⟩

/-- A lexeme without what follows it is the same lexeme. -/
theorem lexeme?_self {cs tail : List Char} (h : lexeme? rule c cs = some (kind, tail)) :
    lexeme? rule c tail = some (kind, tail) := by
  rcases lexeme?_cases h with ⟨hdigit, rfl, rfl⟩ | ⟨hmark, rfl⟩ | ⟨hdigit, hmark, hbegins, rfl, rfl⟩
  · obtain ⟨rest, -, hnumber, -⟩ := exists_numberTail hdigit cs
    have htail := (@numberTail_append c (numberTail cs) [] hnumber (by simp)).2
    rw [List.append_nil] at htail
    simp [lexeme?, hdigit, htail]
  · exact lexeme?_mark hmark []
  · have hall := List.all_eq_true.mp (@List.all_takeWhile _ rule.continues cs)
    have hrun := @List.takeWhile_append_of_pos _ rule.continues _ [] hall
    rw [List.append_nil, List.takeWhile_nil, List.append_nil] at hrun
    simp [lexeme?, hdigit, punctuation?_eq_none_iff.mpr hmark, wordTail?_eq, hbegins, hrun]

theorem kind_ne_eof_of_lexeme? {cs tail : List Char}
    (h : lexeme? rule c cs = some (kind, tail)) : kind ≠ .eof := by
  rcases lexeme?_cases h with ⟨-, rfl, -⟩ | ⟨hmark, -⟩ | ⟨-, -, -, -, rfl⟩
  · decide
  · rintro rfl
    simp [marks] at hmark
  · unfold wordKind
    split <;> decide

/-- A text that is one token of the given kind when it stands alone. -/
def IsLexeme (rule : WordRule) (kind : TokenKind) (text : List Char) : Prop :=
  ∃ c tail, text = c :: tail ∧ isBlank c = false ∧ lexeme? rule c tail = some (kind, tail)

theorem IsLexeme.isNumber {text : List Char} (h : IsLexeme rule .number text) :
    IsNumber text := by
  obtain ⟨c, tail, rfl, -, hlexeme⟩ := h
  rcases lexeme?_cases hlexeme with ⟨hdigit, -, htail⟩ | ⟨hmark, -⟩ | ⟨-, -, -, -, hkind⟩
  · obtain ⟨-, -, hnumber, -⟩ := exists_numberTail hdigit tail
    rwa [← htail] at hnumber
  · simp [marks] at hmark
  · unfold wordKind at hkind
    split at hkind <;> cases hkind

/-- Numbers and names hold neither blanks nor marks. -/
theorem IsLexeme.isWordChar {text : List Char} (h : IsLexeme rule kind text)
    (hkind : kind = .number ∨ kind = .ident) : ∀ d ∈ text, isWordChar d = true := by
  obtain ⟨c, tail, rfl, hblank, hlexeme⟩ := h
  rcases lexeme?_cases hlexeme with ⟨hdigit, -, htail⟩ | ⟨hmark, -⟩ | ⟨-, hmark, -, htail, -⟩
  · obtain ⟨-, -, hnumber, -⟩ := exists_numberTail hdigit tail
    rw [← htail] at hnumber
    exact isWordChar_of_isNumber hnumber
  · rcases hkind with rfl | rfl <;> simp [marks] at hmark
  · have hall := List.all_eq_true.mp (@List.all_takeWhile _ rule.continues tail)
    rw [← htail] at hall
    refine List.forall_mem_cons.mpr ⟨isWordChar_iff.mpr ⟨hblank, hmark⟩, ?_⟩
    exact fun d hd => isWordChar_of_continues (hall d hd)

theorem scan_token {tail rest : List Char} (hblank : isBlank c = false)
    (hlexeme : lexeme? rule c (tail ++ rest) = some (kind, tail)) :
    scan rule pos (c :: (tail ++ rest)) =
      (scan rule (pos + (c :: tail).length) rest).map
        (⟨kind, String.ofList (c :: tail), pos⟩ :: ·) := by
  have hlength : pos + 1 + tail.length = pos + (c :: tail).length := by
    rw [List.length_cons]
    omega
  rw [scan]
  simp only [hblank, Bool.false_eq_true, if_false, hlexeme, List.drop_left, hlength]
  cases scan rule (pos + (c :: tail).length) rest <;> rfl

theorem scan_unrecognized {rest : List Char} (hblank : isBlank c = false)
    (hlexeme : lexeme? rule c rest = none) :
    scan rule pos (c :: rest) = .error (.unrecognized (String.singleton c) pos) := by
  rw [scan]
  simp [hblank, hlexeme]

/-- A text from a given offset on, and the tokens it is split into. -/
inductive Splits (rule : WordRule) : (pos : Nat) → List Char → List Token → Prop
  | nil {pos : Nat} : Splits rule pos [] []
  | blank {pos : Nat} {c : Char} {cs : List Char} {w : List Token} (hblank : isBlank c = true)
      (h : Splits rule (pos + 1) cs w) : Splits rule pos (c :: cs) w
  | token {pos : Nat} {c : Char} {tail rest : List Char} {kind : TokenKind} {w : List Token}
      (hblank : isBlank c = false) (hlexeme : lexeme? rule c (tail ++ rest) = some (kind, tail))
      (h : Splits rule (pos + (c :: tail).length) rest w) :
      Splits rule pos (c :: (tail ++ rest)) (⟨kind, String.ofList (c :: tail), pos⟩ :: w)

namespace Splits

variable {a b cs : List Char} {v w : List Token}

/-- The lexer returns what a text is split into, and the end token behind it. -/
theorem scan_eq (h : Splits rule pos cs w) :
    scan rule pos cs = .ok (w ++ [Token.endAt (pos + cs.length : Nat)]) := by
  induction h with
  | nil => exact scan_nil _ _
  | @blank pos c cs w hblank _ ih =>
      rw [scan_blank _ _ _ hblank, ih, List.length_cons, Nat.add_assoc, Nat.add_comm 1]
  | @token pos c tail rest kind w hblank hlexeme _ ih =>
      rw [scan_token hblank hlexeme, ih, ← List.cons_append, List.length_append, Nat.add_assoc]
      rfl

/-- A text is split in one way only. -/
theorem unique (h : Splits rule pos cs v) (h' : Splits rule pos cs w) : v = w :=
  List.append_cancel_right (Except.ok.inj (h.scan_eq.symm.trans h'.scan_eq))

/-- Every text the lexer accepts is split. -/
theorem exists_of_scan {ts : List Token} (h : scan rule pos cs = .ok ts) :
    ∃ w, Splits rule pos cs w := by
  fun_induction scan rule pos cs generalizing ts with
  | case1 pos => exact ⟨[], .nil⟩
  | case2 pos c rest hblank ih =>
      obtain ⟨w, hw⟩ := ih h
      exact ⟨w, .blank hblank hw⟩
  | case3 => cases h
  | case4 => cases h
  | case5 pos c rest hblank kind tail hlexeme tokens hscan ih =>
      obtain ⟨w, hw⟩ := ih hscan
      obtain ⟨rest, rfl⟩ := exists_of_lexeme? hlexeme
      rw [List.drop_left, Nat.add_assoc, Nat.add_comm 1] at hw
      exact ⟨_, .token (Bool.eq_false_iff.mpr hblank) hlexeme hw⟩

theorem gap {gap : List Char} (hgap : ∀ c ∈ gap, isBlank c = true)
    (h : Splits rule (pos + gap.length) cs w) : Splits rule pos (gap ++ cs) w := by
  induction gap generalizing pos with
  | nil => exact h
  | cons c gap ih =>
      obtain ⟨hblank, hgap⟩ := List.forall_mem_cons.mp hgap
      rw [List.length_cons, Nat.add_comm gap.length, ← Nat.add_assoc] at h
      exact .blank hblank (ih hgap h)

/-- A text is split after a separated text is added at its end as before it. -/
theorem append (h : Splits rule pos a w) (hb : Separated b)
    (h' : Splits rule (pos + a.length) b v) : Splits rule pos (a ++ b) (w ++ v) := by
  induction h with
  | nil => exact h'
  | @blank pos c cs w hblank _ ih =>
      rw [List.length_cons, Nat.add_comm cs.length, ← Nat.add_assoc] at h'
      exact .blank hblank (ih h')
  | @token pos c tail rest kind w hblank hlexeme _ ih =>
      rw [← List.cons_append, List.length_append, ← Nat.add_assoc] at h'
      rw [← lexeme?_append rule c (tail ++ rest) hb, List.append_assoc] at hlexeme
      rw [List.cons_append, List.append_assoc]
      exact .token hblank hlexeme (ih h')

/-- A mark is a token whatever follows it. -/
theorem mark (hmark : (c, kind) ∈ marks) (h : Splits rule (pos + 1) cs w) :
    Splits rule pos (c :: cs) (⟨kind, String.ofList [c], pos⟩ :: w) :=
  @token rule pos c [] cs kind w (isBlank_of_mark hmark).1 (lexeme?_mark hmark cs) h

theorem ofLexeme {text : List Char} (h : IsLexeme rule kind text) :
    Splits rule pos text [⟨kind, String.ofList text, pos⟩] := by
  obtain ⟨c, tail, rfl, hblank, hlexeme⟩ := h
  have hsplits := @token rule pos c tail [] kind [] hblank
  rw [List.append_nil] at hsplits
  exact hsplits hlexeme .nil

/-- The text of every token is that token when it stands alone. -/
theorem isLexeme (h : Splits rule pos cs w) :
    ∀ t ∈ w, IsLexeme rule t.kind t.text.toList := by
  induction h with
  | nil => simp
  | blank _ _ ih => exact ih
  | @token pos c tail rest kind w hblank hlexeme _ ih =>
      refine List.forall_mem_cons.mpr ⟨⟨c, tail, ?_, hblank, lexeme?_self hlexeme⟩, ih⟩
      exact String.toList_ofList

theorem kind_ne_eof (h : Splits rule pos cs w) : ∀ t ∈ w, t.kind ≠ .eof := by
  intro t ht
  obtain ⟨c, tail, -, -, hlexeme⟩ := h.isLexeme t ht
  exact kind_ne_eof_of_lexeme? hlexeme

/-- The offset of a text is only added to the offsets of its tokens. -/
theorem shift (h : Splits rule pos cs w) (offset : Nat) :
    Splits rule (pos + offset) cs (w.map (Token.shift offset)) := by
  induction h with
  | nil => exact .nil
  | blank hblank _ ih =>
      rw [Nat.add_right_comm] at ih
      exact .blank hblank ih
  | token hblank hlexeme _ ih =>
      rw [Nat.add_right_comm] at ih
      exact .token hblank hlexeme ih

end Splits

end Lexer

end LineCalc
