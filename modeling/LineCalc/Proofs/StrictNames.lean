import LineCalc.Proofs.Locality

/-!
# The strict rule on words

The strict rule accepts a line if and only if every word that the permissive
rule finds in it is a name, and then both rules find the same tokens. Otherwise
the strict rule fails at the first character that keeps the first such word from
being a name. Both facts follow the permissive rule token by token.
-/

namespace LineCalc.Lexer

open Text Decimal.Literal

variable {pos : Nat} {c d : Char} {kind : TokenKind}

/-- A letter or an underscore, and then letters, digits, and underscores. -/
def IsName (text : List Char) : Prop :=
  ∃ c tail, text = c :: tail ∧ isNameStart c = true ∧ ∀ d ∈ tail, isNameChar d = true

/-- The text is a name up to the character `d`, which cannot stand in its place. -/
structure BreaksAt (text good : List Char) (d : Char) : Prop where
  text_eq : ∃ rest, text = good ++ d :: rest
  breaks : (good = [] ∧ isNameStart d = false) ∨ (IsName good ∧ isNameChar d = false)

/-- Every word among the tokens is a name. -/
def AllNames (ts : List Token) : Prop := ∀ t ∈ ts, t.kind = .ident → IsName t.text.toList

/-- The first word among the tokens that is no name breaks at the character `d`,
which has the given offset. -/
def FirstBreak (ts : List Token) (d : Char) (offset : Int) : Prop :=
  ∃ before t after good, ts = before ++ t :: after ∧ AllNames before ∧ t.kind = .ident ∧
    BreaksAt t.text.toList good d ∧ offset = t.pos + good.length

theorem BreaksAt.not_isName {text good : List Char} (h : BreaksAt text good d) :
    ¬ IsName text := by
  obtain ⟨⟨rest, rfl⟩, hgood⟩ := h
  rintro ⟨c, tail, heq, hstart, htail⟩
  rcases hgood with ⟨rfl, hd⟩ | ⟨⟨a, good, rfl, -, -⟩, hd⟩
  · obtain ⟨rfl, -⟩ := List.cons.inj heq
    rw [hd] at hstart
    exact Bool.false_ne_true hstart
  · obtain ⟨-, rfl⟩ := List.cons.inj heq
    have hchar := htail d (by simp)
    rw [hd] at hchar
    exact Bool.false_ne_true hchar

/-- A word that is no name breaks somewhere. -/
theorem exists_breaksAt {tail : List Char} (h : ¬ IsName (c :: tail)) :
    ∃ good d, BreaksAt (c :: tail) good d := by
  cases hstart : isNameStart c with
  | false => exact ⟨[], c, ⟨tail, rfl⟩, Or.inl ⟨rfl, hstart⟩⟩
  | true =>
      obtain ⟨body, rest, rfl, hbody, hrest⟩ := exists_run isNameChar tail
      cases rest with
      | nil =>
          rw [List.append_nil] at h
          exact absurd ⟨c, body, rfl, hstart, hbody⟩ h
      | cons d rest =>
          exact ⟨c :: body, d, ⟨rest, rfl⟩, Or.inr ⟨⟨c, body, rfl, hstart, hbody⟩, hrest d rfl⟩⟩

theorem FirstBreak.not_allNames {ts : List Token} {offset : Int} (h : FirstBreak ts d offset) :
    ¬ AllNames ts := by
  obtain ⟨before, t, after, good, rfl, -, hkind, hbreak, -⟩ := h
  intro hall
  exact hbreak.not_isName (hall t (by simp) hkind)

theorem allNames_cons {t : Token} {ts : List Token}
    (ht : t.kind = .ident → IsName t.text.toList) (hts : AllNames ts) : AllNames (t :: ts) :=
  List.forall_mem_cons.mpr ⟨ht, hts⟩

theorem FirstBreak.cons {t : Token} {ts : List Token} {offset : Int}
    (ht : t.kind = .ident → IsName t.text.toList) (h : FirstBreak ts d offset) :
    FirstBreak (t :: ts) d offset := by
  obtain ⟨before, a, after, good, rfl, hbefore, hrest⟩ := h
  exact ⟨t :: before, a, after, good, rfl, allNames_cons ht hbefore, hrest⟩

theorem isName_define : IsName "def".toList := by
  have hall : ['e', 'f'].all isNameChar = true := by decide
  exact ⟨'d', ['e', 'f'], rfl, by decide, List.all_eq_true.mp hall⟩

/-- The strict rule takes a whole name, like the permissive rule. -/
theorem lexeme?_strict {cs tail : List Char} (h : lexeme? .any c cs = some (kind, tail))
    (hname : kind = .ident → IsName (c :: tail)) :
    lexeme? .strict c cs = some (kind, tail) := by
  rcases lexeme?_cases h with ⟨hdigit, rfl, rfl⟩ | ⟨hmark, rfl⟩ | ⟨hdigit, hmark, -, htail, hkind⟩
  · simp [lexeme?, hdigit]
  · exact lexeme?_mark hmark cs
  · have hname : IsName (c :: tail) := by
      by_cases hdef : c :: tail = "def".toList
      · rw [hdef]
        exact isName_define
      · rw [wordKind, if_neg hdef] at hkind
        exact hname hkind
    obtain ⟨_, _, heq, hstart, hchars⟩ := hname
    obtain ⟨rfl, rfl⟩ := List.cons.inj heq
    obtain ⟨body, rest, rfl, hbody, hrest⟩ := exists_run isWordChar cs
    obtain rfl : tail = body := htail.trans (takeWhile_dropWhile_append hbody hrest).1
    have hnext : ∀ d ∈ rest.head?, isNameChar d = false := by
      intro d hd
      rw [← Bool.not_eq_true]
      intro hchar
      have hword := hrest d hd
      rw [isWordChar_of_isNameChar hchar] at hword
      cases hword
    simp [lexeme?, hdigit, punctuation?_eq_none_iff.mpr hmark, wordTail?, hstart,
      (takeWhile_dropWhile_append hchars hnext).1, hkind]

theorem lexeme?_strict_eq_none (hword : isWordChar c = true) (hdigit : isDigit c = false)
    (hstart : isNameStart c = false) (cs : List Char) : lexeme? .strict c cs = none := by
  have hmark := (isWordChar_iff.mp hword).2
  simp [lexeme?, hdigit, punctuation?_eq_none_iff.mpr hmark, wordTail?, hstart]

/-- The strict rule stops where a word breaks. The part before the break is read
as a token of its own, and the break begins no token. -/
theorem scan_strict_of_breaksAt {tail good : List Char}
    (hword : ∀ a ∈ c :: tail, isWordChar a = true) (hdigit : isDigit c = false)
    (h : BreaksAt (c :: tail) good d) (rest : List Char) :
    scan .strict pos (c :: (tail ++ rest)) =
      .error (.unrecognized (String.singleton d) (pos + good.length : Nat)) := by
  obtain ⟨⟨after, htext⟩, ⟨rfl, hd⟩ | ⟨⟨a, good, rfl, hstart, hgood⟩, hd⟩⟩ := h
  · obtain ⟨rfl, rfl⟩ := List.cons.inj htext
    have hc := hword c List.mem_cons_self
    exact scan_unrecognized (isWordChar_iff.mp hc).1 (lexeme?_strict_eq_none hc hdigit hd _)
  · rw [List.cons_append, List.cons.injEq] at htext
    obtain ⟨rfl, rfl⟩ := htext
    have hc := isWordChar_iff.mp (hword c List.mem_cons_self)
    have hdword := hword d (by simp)
    obtain ⟨hdstart, hddigit⟩ := Bool.or_eq_false_iff.mp hd
    have hrun : (good ++ d :: (after ++ rest)).takeWhile isNameChar = good :=
      (takeWhile_dropWhile_append hgood (by simpa using hd)).1
    have hlexeme : lexeme? .strict c (good ++ d :: (after ++ rest)) =
        some (wordKind (c :: good), good) := by
      simp [lexeme?, hdigit, punctuation?_eq_none_iff.mpr hc.2, wordTail?, hstart, hrun]
    have hbreak : scan .strict (pos + (c :: good).length) (d :: (after ++ rest)) =
        .error (.unrecognized (String.singleton d) (pos + (c :: good).length : Nat)) :=
      scan_unrecognized (isWordChar_iff.mp hdword).1
        (lexeme?_strict_eq_none hdword hddigit hdstart _)
    rw [List.append_assoc, List.cons_append, scan_token hc.1 hlexeme, hbreak]
    rfl

/-- A word is what the permissive rule finds where neither a digit nor a mark stands. -/
theorem isWordChar_of_ident {cs tail : List Char}
    (h : lexeme? .any c cs = some (.ident, tail)) (hblank : isBlank c = false) :
    (∀ a ∈ c :: tail, isWordChar a = true) ∧ isDigit c = false := by
  have hlexeme : IsLexeme .any .ident (c :: tail) := ⟨c, tail, rfl, hblank, lexeme?_self h⟩
  refine ⟨hlexeme.isWordChar (Or.inr rfl), ?_⟩
  rcases lexeme?_cases h with ⟨-, hkind, -⟩ | ⟨hmark, -⟩ | ⟨hdigit, -⟩
  · cases hkind
  · simp [marks] at hmark
  · exact hdigit

/-- What the strict rule makes of a text that the permissive rule splits. -/
theorem Splits.strict {cs : List Char} {w : List Token} (h : Splits .any pos cs w) :
    (AllNames w ∧ Splits .strict pos cs w) ∨
    ∃ u d v, cs = u ++ d :: v ∧ FirstBreak w d (pos + u.length : Nat) ∧
      scan .strict pos cs =
        .error (.unrecognized (String.singleton d) (pos + u.length : Nat)) := by
  induction h with
  | nil => exact Or.inl ⟨by simp [AllNames], .nil⟩
  | @blank pos c cs w hblank _ ih =>
      rcases ih with ⟨hall, hsplits⟩ | ⟨u, d, v, rfl, hbreak, hscan⟩
      · exact Or.inl ⟨hall, .blank hblank hsplits⟩
      · have hlength : pos + 1 + u.length = pos + (c :: u).length := by
          rw [List.length_cons]
          omega
        rw [hlength] at hbreak hscan
        rw [← scan_blank _ _ _ hblank] at hscan
        exact Or.inr ⟨c :: u, d, v, rfl, hbreak, hscan⟩
  | @token pos c tail rest kind w hblank hlexeme _ ih =>
      by_cases hname : kind = .ident → IsName (c :: tail)
      · -- The first token is the same under both rules.
        have hstrict := lexeme?_strict hlexeme hname
        have hfirst : kind = .ident → IsName (String.ofList (c :: tail)).toList := by
          rwa [String.toList_ofList]
        rcases ih with ⟨hall, hsplits⟩ | ⟨u, d, v, rfl, hbreak, hscan⟩
        · exact Or.inl ⟨allNames_cons hfirst hall, .token hblank hstrict hsplits⟩
        · have hlength : pos + (c :: tail).length + u.length = pos + (c :: tail ++ u).length := by
            rw [List.length_append, Nat.add_assoc]
          rw [hlength] at hbreak hscan
          refine Or.inr ⟨c :: tail ++ u, d, v, by simp, hbreak.cons hfirst, ?_⟩
          rw [scan_token hblank hstrict, hscan]
          rfl
      · -- The first token is a word that is no name.
        obtain ⟨rfl, hnot⟩ := Classical.not_imp.mp hname
        obtain ⟨hword, hdigit⟩ := isWordChar_of_ident hlexeme hblank
        obtain ⟨good, d, hbreak⟩ := exists_breaksAt hnot
        obtain ⟨after, htext⟩ := hbreak.text_eq
        refine Or.inr ⟨good, d, after ++ rest, ?_, ?_, ?_⟩
        · rw [← List.cons_append, htext, List.append_assoc, List.cons_append]
        · refine ⟨[], _, w, good, rfl, by simp [AllNames], rfl, ?_, by simp⟩
          rwa [String.toList_ofList]
        · exact scan_strict_of_breaksAt hword hdigit hbreak rest

/-- What the strict rule finds in a text, the permissive rule finds too. -/
theorem Splits.permissive {rule : WordRule} {cs : List Char} {w : List Token}
    (h : Splits rule pos cs w) : Splits .any pos cs w := by
  cases rule with
  | any => exact h
  | strict =>
      obtain ⟨ts, hseg⟩ := exists_segmentation pos cs
      obtain ⟨v, hv⟩ := Splits.exists_of_scan hseg.scan_eq
      rcases hv.strict with ⟨-, hstrict⟩ | ⟨u, d, rest, -, -, hscan⟩
      · obtain rfl := h.unique hstrict
        exact hv
      · rw [h.scan_eq] at hscan
        cases hscan

theorem AllNames.append_end {w : List Token} (h : AllNames w) (finish : Int) :
    AllNames (w ++ [Token.endAt finish]) := by
  intro t ht hkind
  rcases List.mem_append.mp ht with ht | ht
  · exact h t ht hkind
  · cases List.mem_singleton.mp ht
    cases hkind

theorem FirstBreak.append {w : List Token} {offset : Int} (h : FirstBreak w d offset)
    (ts : List Token) : FirstBreak (w ++ ts) d offset := by
  obtain ⟨before, t, after, good, rfl, hrest⟩ := h
  exact ⟨before, t, after ++ ts, good, by simp, hrest⟩

/-- Under the permissive rule every line is split. If all its words are names, the
strict rule finds the same tokens; if not, the strict rule fails at the character
where the first word that is no name breaks, which stands in the line at the
offset reported. -/
theorem scan_strict_eq_or_firstBreak (source : String) :
    ∃ ts, Token.scan .any source = .ok ts ∧
      (AllNames ts → Token.scan .strict source = .ok ts) ∧
      (¬ AllNames ts → ∃ d offset, FirstBreak ts d (offset : Nat) ∧
        source.toList[offset]? = some d ∧
        Token.scan .strict source = .error (.unrecognized (String.singleton d) offset)) := by
  obtain ⟨ts, hseg⟩ := exists_segmentation 0 source.toList
  obtain ⟨w, hsplits⟩ := Splits.exists_of_scan hseg.scan_eq
  refine ⟨_, hsplits.scan_eq, ?_⟩
  rcases hsplits.strict with ⟨hall, hstrict⟩ | ⟨u, d, v, hsource, hbreak, hscan⟩
  · refine ⟨fun _ => hstrict.scan_eq, ?_⟩
    intro hnot
    exact absurd (hall.append_end _) hnot
  · rw [Nat.zero_add] at hbreak hscan
    have hfirst := hbreak.append [Token.endAt (0 + source.toList.length : Nat)]
    refine ⟨fun hall => absurd hall hfirst.not_allNames, ?_⟩
    intro _
    exact ⟨d, u.length, hfirst, by simp [hsource], hscan⟩

end LineCalc.Lexer
