import LineCalc.Token.Lexer

/-!
# Splitting a line in the only possible way

A segmentation of a text cuts it into tokens, with blanks between them. Every
token has a text of its class, no token could be longer, and every token carries
the offset of its text. Under the rule that allows any word, every text has
exactly one segmentation, and the lexer finds it.

## Implementation notes

The classes of texts are stated without the functions of the lexer. That a token
could not be longer only concerns the next character: every text that begins a
longer one of its class belongs to the class itself.
-/

namespace LineCalc.Lexer

open Text Decimal.Literal

/-- The characters that are tokens of their own, with their kinds. -/
def marks : List (Char × TokenKind) :=
  [('+', .plus), ('-', .minus), ('*', .star), ('/', .slash), ('(', .lparen), (')', .rparen),
    ('=', .equal), (';', .semicolon)]

/-- Whether a character is a token of its own. -/
def IsMark (c : Char) : Prop := ∃ kind, (c, kind) ∈ marks

/-- Digits, and then possibly a point and more digits. -/
def IsNumber (text : List Char) : Prop :=
  ∃ digits, digits ≠ [] ∧ (∀ c ∈ digits, isDigit c = true) ∧
    (text = digits ∨
      ∃ fraction, (∀ c ∈ fraction, isDigit c = true) ∧ text = digits ++ '.' :: fraction)

/-- The texts of each kind of token. -/
inductive HasClass : TokenKind → List Char → Prop
  | number {text : List Char} (h : IsNumber text) : HasClass .number text
  | mark {c : Char} {kind : TokenKind} (h : (c, kind) ∈ marks) : HasClass kind [c]
  | define : HasClass .define "def".toList
  | word {c : Char} {tail : List Char} (hdigit : isDigit c = false)
      (hchars : ∀ d ∈ c :: tail, isBlank d = false ∧ ¬ IsMark d)
      (hdef : c :: tail ≠ "def".toList) : HasClass .ident (c :: tail)

/-- The next character does not make the text of a token longer. -/
def Stops (kind : TokenKind) (text : List Char) (next : Char) : Prop :=
  match kind with
  | .number => ¬ IsNumber (text ++ [next])
  | .ident => isBlank next = true ∨ IsMark next
  | .define => isBlank next = true ∨ IsMark next
  | _ => True

/-- A text from a given offset on, cut into tokens with blanks around them. -/
inductive Segmentation : (pos : Nat) → List Char → List Token → Prop
  | done {pos : Nat} {gap : List Char} (hgap : ∀ c ∈ gap, isBlank c = true) :
      Segmentation pos gap []
  | token {pos : Nat} {gap text rest : List Char} {kind : TokenKind} {ts : List Token}
      (hgap : ∀ c ∈ gap, isBlank c = true) (htext : HasClass kind text)
      (hstop : ∀ c ∈ rest.head?, Stops kind text c)
      (hrest : Segmentation (pos + gap.length + text.length) rest ts) :
      Segmentation pos (gap ++ text ++ rest)
        (⟨kind, String.ofList text, (pos + gap.length : Nat)⟩ :: ts)

theorem punctuation?_eq_some_iff {c : Char} {kind : TokenKind} :
    punctuation? c = some kind ↔ (c, kind) ∈ marks := by
  unfold punctuation?
  split <;> simp_all [marks, eq_comm]

theorem punctuation?_eq_none_iff {c : Char} : punctuation? c = none ↔ ¬ IsMark c := by
  simp [Option.eq_none_iff_forall_ne_some, punctuation?_eq_some_iff, IsMark]

theorem isBlank_of_isDigit {c : Char} (h : isDigit c = true) : isBlank c = false := by
  simp only [isDigit, Bool.and_eq_true, decide_eq_true_eq, Char.le_def,
    UInt32.le_iff_toNat_le] at h
  change 48 ≤ c.toNat ∧ c.toNat ≤ 57 at h
  simp only [isBlank, Bool.or_eq_false_iff, Bool.and_eq_false_iff, decide_eq_false_iff_not,
    beq_eq_false_iff_ne]
  omega

theorem isBlank_of_mark {c : Char} {kind : TokenKind} (h : (c, kind) ∈ marks) :
    isBlank c = false ∧ isDigit c = false := by
  have hall : ∀ mark ∈ marks, isBlank mark.1 = false ∧ isDigit mark.1 = false := by decide
  exact hall (c, kind) h

theorem isWordChar_iff {c : Char} :
    isWordChar c = true ↔ isBlank c = false ∧ ¬ IsMark c := by
  simp [isWordChar, punctuation?_eq_none_iff]

/-- A run of a class of elements that the next one leaves is taken as a whole. -/
theorem takeWhile_dropWhile_append {α : Type} {p : α → Bool} {body rest : List α}
    (hbody : ∀ c ∈ body, p c = true) (hrest : ∀ c ∈ rest.head?, p c = false) :
    (body ++ rest).takeWhile p = body ∧ (body ++ rest).dropWhile p = rest := by
  rw [List.takeWhile_append_of_pos hbody, List.dropWhile_append_of_pos hbody]
  cases rest with
  | nil => simp
  | cons c rest => simp [hrest c rfl]

theorem isDigit_point : isDigit '.' = false := by decide

/-- A point ends a run of digits. -/
theorem isDigit_head_point (tail : List Char) :
    ∀ c ∈ ('.' :: tail).head?, isDigit c = false := by
  rintro c ⟨⟩
  exact isDigit_point

theorem isNumber_digits_append {digits : List Char} (hne : digits ≠ [])
    (hdigits : ∀ c ∈ digits, isDigit c = true) (next : Char) :
    IsNumber (digits ++ [next]) ↔ isDigit next = true ∨ next = '.' := by
  constructor
  · rintro ⟨ds, -, hds, hall | ⟨fraction, -, hpoint⟩⟩
    · exact Or.inl (hds next (by simp [← hall]))
    · have hmem : '.' ∈ digits ++ [next] := by simp [hpoint]
      rcases List.mem_append.mp hmem with h | h
      · exact absurd (hdigits '.' h) (by simp [isDigit_point])
      · exact Or.inr (List.mem_singleton.mp h).symm
  · rintro (hdigit | rfl)
    · refine ⟨digits ++ [next], by simp, ?_, Or.inl rfl⟩
      exact List.forall_mem_append.mpr ⟨hdigits, List.forall_mem_singleton.mpr hdigit⟩
    · exact ⟨digits, hne, hdigits, Or.inr ⟨[], by simp, rfl⟩⟩

theorem isNumber_fraction_append {digits fraction : List Char} (hne : digits ≠ [])
    (hdigits : ∀ c ∈ digits, isDigit c = true) (hfraction : ∀ c ∈ fraction, isDigit c = true)
    (next : Char) :
    IsNumber (digits ++ '.' :: fraction ++ [next]) ↔ isDigit next = true := by
  constructor
  · rintro ⟨ds, -, hds, hall | ⟨fr, hfr, heq⟩⟩
    · exact absurd (hds '.' (by simp [← hall])) (by simp [isDigit_point])
    · -- Both sides have their first point in the same place.
      have hsame := congrArg (List.dropWhile isDigit) heq
      rw [List.append_assoc, List.cons_append,
        (takeWhile_dropWhile_append hdigits (isDigit_head_point _)).2,
        (takeWhile_dropWhile_append hds (isDigit_head_point _)).2] at hsame
      exact hfr next (by simp [← (List.cons.inj hsame).2])
  · intro hdigit
    refine ⟨digits, hne, hdigits, Or.inr ⟨fraction ++ [next], ?_, by simp⟩⟩
    exact List.forall_mem_append.mpr ⟨hfraction, List.forall_mem_singleton.mpr hdigit⟩

theorem numberTail_of_point {cs rest : List Char} (h : cs.dropWhile isDigit = '.' :: rest) :
    numberTail cs = cs.takeWhile isDigit ++ '.' :: rest.takeWhile isDigit := by
  simp only [numberTail, h]

theorem numberTail_of_no_point {cs : List Char}
    (h : ∀ c ∈ (cs.dropWhile isDigit).head?, c ≠ '.') : numberTail cs = cs.takeWhile isDigit := by
  unfold numberTail
  split
  · next rest hpoint =>
      rw [hpoint] at h
      exact absurd rfl (h '.' rfl)
  · exact List.append_nil _

/-- The lexer takes the whole of a number that the next character does not make longer. -/
theorem numberTail_append {c : Char} {tail rest : List Char} (h : IsNumber (c :: tail))
    (hstop : ∀ d ∈ rest.head?, ¬ IsNumber (c :: tail ++ [d])) :
    isDigit c = true ∧ numberTail (tail ++ rest) = tail := by
  obtain ⟨digits, hne, hdigits, rfl | ⟨fraction, hfraction, heq⟩⟩ := h
  · have hnext : ∀ d ∈ rest.head?, isDigit d = false ∧ d ≠ '.' := by
      intro d hd
      have hlonger := hstop d hd
      rw [isNumber_digits_append hne hdigits] at hlonger
      simpa using hlonger
    obtain ⟨htake, hdrop⟩ := takeWhile_dropWhile_append
      (fun d hd => hdigits d (List.mem_cons_of_mem c hd)) (fun d hd => (hnext d hd).1)
    refine ⟨hdigits c List.mem_cons_self, ?_⟩
    rw [numberTail_of_no_point (by rw [hdrop]; exact fun d hd => (hnext d hd).2), htake]
  · cases digits with
    | nil => exact absurd rfl hne
    | cons a digits =>
        rw [List.cons_append, List.cons.injEq] at heq
        obtain ⟨rfl, rfl⟩ := heq
        have hnext : ∀ d ∈ rest.head?, isDigit d = false := by
          intro d hd
          have hlonger := hstop d hd
          rw [← List.cons_append, isNumber_fraction_append hne hdigits hfraction] at hlonger
          simpa using hlonger
        obtain ⟨htake, hdrop⟩ := takeWhile_dropWhile_append
          (fun d hd => hdigits d (List.mem_cons_of_mem c hd))
          (isDigit_head_point (fraction ++ rest))
        refine ⟨hdigits c List.mem_cons_self, ?_⟩
        rw [List.append_assoc, List.cons_append, numberTail_of_point hdrop, htake,
          (takeWhile_dropWhile_append hfraction hnext).1]

/-- The lexer takes the whole of a word up to a blank or a mark. -/
theorem lexeme?_word {c : Char} {tail rest : List Char} (hdigit : isDigit c = false)
    (hchars : ∀ d ∈ c :: tail, isBlank d = false ∧ ¬ IsMark d)
    (hstop : ∀ d ∈ rest.head?, isBlank d = true ∨ IsMark d) :
    lexeme? .any c (tail ++ rest) = some (wordKind (c :: tail), tail) := by
  have hmark : punctuation? c = none :=
    punctuation?_eq_none_iff.mpr (hchars c List.mem_cons_self).2
  have htail : ∀ d ∈ tail, isWordChar d = true := fun d hd =>
    isWordChar_iff.mpr (hchars d (List.mem_cons_of_mem c hd))
  have hnext : ∀ d ∈ rest.head?, isWordChar d = false := by
    intro d hd
    rw [← Bool.not_eq_true, isWordChar_iff]
    rintro ⟨hblank, hmark⟩
    rcases hstop d hd with h | h
    · simp [h] at hblank
    · exact hmark h
  simp [lexeme?, hdigit, hmark, wordTail?, (takeWhile_dropWhile_append htail hnext).1]

/-- The lexer takes the whole of a token that the next character does not make longer. -/
theorem lexeme?_of_hasClass {kind : TokenKind} {text rest : List Char} (h : HasClass kind text)
    (hstop : ∀ d ∈ rest.head?, Stops kind text d) :
    ∃ c tail, text = c :: tail ∧ isBlank c = false ∧
      lexeme? .any c (tail ++ rest) = some (kind, tail) := by
  cases h with
  | number h =>
      cases text with
      | nil =>
          obtain ⟨digits, hne, -, rfl | ⟨_, -, heq⟩⟩ := h
          · exact absurd rfl hne
          · simp at heq
      | cons c tail =>
          obtain ⟨hdigit, htail⟩ := numberTail_append h hstop
          exact ⟨c, tail, rfl, isBlank_of_isDigit hdigit, by simp [lexeme?, hdigit, htail]⟩
  | @mark c kind h =>
      obtain ⟨hblank, hdigit⟩ := isBlank_of_mark h
      have hmark := punctuation?_eq_some_iff.mpr h
      exact ⟨c, [], rfl, hblank, by simp [lexeme?, hdigit, hmark]⟩
  | define =>
      have hall : ['d', 'e', 'f'].all isWordChar = true := by decide
      have hchars : ∀ d ∈ ['d', 'e', 'f'], isBlank d = false ∧ ¬ IsMark d := fun d hd =>
        isWordChar_iff.mp (List.all_eq_true.mp hall d hd)
      exact ⟨'d', ['e', 'f'], rfl, by decide, lexeme?_word (by decide) hchars hstop⟩
  | @word c tail hdigit hchars hdef =>
      have hlexeme := lexeme?_word hdigit hchars hstop
      rw [wordKind, if_neg hdef] at hlexeme
      exact ⟨c, tail, rfl, (hchars c List.mem_cons_self).1, hlexeme⟩

/-- Blanks move the offset and nothing else. -/
theorem scan_gap (rule : WordRule) (pos : Nat) {gap : List Char}
    (hgap : ∀ c ∈ gap, isBlank c = true) (cs : List Char) :
    scan rule pos (gap ++ cs) = scan rule (pos + gap.length) cs := by
  induction gap generalizing pos with
  | nil => rfl
  | cons c gap ih =>
      have htail : ∀ d ∈ gap, isBlank d = true := fun d hd => hgap d (List.mem_cons_of_mem c hd)
      rw [List.cons_append, scan_blank rule pos _ (hgap c List.mem_cons_self), ih (pos + 1) htail,
        List.length_cons, Nat.add_assoc, Nat.add_comm 1]

theorem scan_append {kind : TokenKind} {text rest : List Char} (h : HasClass kind text)
    (hstop : ∀ d ∈ rest.head?, Stops kind text d) {pos : Nat} {tokens : List Token}
    (hrest : scan .any (pos + text.length) rest = .ok tokens) :
    scan .any pos (text ++ rest) = .ok (⟨kind, String.ofList text, pos⟩ :: tokens) := by
  obtain ⟨c, tail, rfl, hblank, hlexeme⟩ := lexeme?_of_hasClass h hstop
  rw [List.length_cons, Nat.add_comm tail.length, ← Nat.add_assoc] at hrest
  rw [List.cons_append, scan]
  simp [hblank, hlexeme, hrest]

/-- The lexer finds every segmentation. -/
theorem Segmentation.scan_eq {pos : Nat} {cs : List Char} {ts : List Token}
    (h : Segmentation pos cs ts) :
    scan .any pos cs = .ok (ts ++ [Token.endAt (pos + cs.length : Nat)]) := by
  induction h with
  | @done pos gap hgap =>
      have hscan := scan_gap .any pos hgap []
      rw [List.append_nil] at hscan
      rw [hscan, scan_nil]
      rfl
  | @token pos gap text rest kind ts hgap htext hstop _ ih =>
      rw [List.append_assoc, scan_gap .any pos hgap, scan_append htext hstop ih]
      simp only [List.length_append, List.cons_append, Nat.add_assoc]

/-- Every text begins with a run of a class of characters that the next one leaves. -/
theorem exists_run (p : Char → Bool) (cs : List Char) :
    ∃ body rest, cs = body ++ rest ∧ (∀ c ∈ body, p c = true) ∧
      ∀ c ∈ rest.head?, p c = false := by
  induction cs with
  | nil => exact ⟨[], [], rfl, by simp, by simp⟩
  | cons c cs ih =>
      cases hc : p c with
      | false => exact ⟨[], c :: cs, rfl, by simp, by simpa using hc⟩
      | true =>
          obtain ⟨body, rest, rfl, hbody, hrest⟩ := ih
          exact ⟨c :: body, rest, rfl, List.forall_mem_cons.mpr ⟨hc, hbody⟩, hrest⟩

/-- Every text ends with a run of a given character. -/
theorem append_end_run (c : Char) (cs : List Char) :
    cs = (cs.reverse.dropWhile (· == c)).reverse ++
      List.replicate (cs.reverse.takeWhile (· == c)).length c := by
  have hall := List.all_eq_true.mp (@List.all_takeWhile _ (· == c) cs.reverse)
  have hrun := List.eq_replicate_of_mem fun d hd => eq_of_beq (hall d hd)
  calc
    cs = (cs.reverse.takeWhile (· == c) ++ cs.reverse.dropWhile (· == c)).reverse := by
      rw [List.takeWhile_append_dropWhile, List.reverse_reverse]
    _ = (cs.reverse.dropWhile (· == c)).reverse ++ (cs.reverse.takeWhile (· == c)).reverse :=
      List.reverse_append
    _ = (cs.reverse.dropWhile (· == c)).reverse ++
        List.replicate (cs.reverse.takeWhile (· == c)).length c := by
      rw [hrun, List.reverse_replicate, List.length_replicate]

theorem exists_number {c : Char} (hdigit : isDigit c = true) (cs : List Char) :
    ∃ tail rest, cs = tail ++ rest ∧ IsNumber (c :: tail) ∧
      ∀ d ∈ rest.head?, ¬ IsNumber (c :: tail ++ [d]) := by
  obtain ⟨digits, after, rfl, hrun, hafter⟩ := exists_run isDigit cs
  have hdigits : ∀ d ∈ c :: digits, isDigit d = true := List.forall_mem_cons.mpr ⟨hdigit, hrun⟩
  have hne : c :: digits ≠ [] := List.cons_ne_nil c digits
  by_cases hpoint : after.head? = some '.'
  · obtain ⟨after, rfl⟩ := List.head?_eq_some_iff.mp hpoint
    obtain ⟨fraction, rest, rfl, hfraction, hrest⟩ := exists_run isDigit after
    refine ⟨digits ++ '.' :: fraction, rest, by simp,
      ⟨c :: digits, hne, hdigits, Or.inr ⟨fraction, hfraction, rfl⟩⟩, ?_⟩
    intro d hd
    rw [← List.cons_append, isNumber_fraction_append hne hdigits hfraction, hrest d hd]
    exact Bool.false_ne_true
  · refine ⟨digits, after, rfl, ⟨c :: digits, hne, hdigits, Or.inl rfl⟩, ?_⟩
    intro d hd
    rw [isNumber_digits_append hne hdigits, hafter d hd]
    rintro (h | rfl)
    · exact Bool.false_ne_true h
    · exact hpoint hd

/-- Every text that does not begin with a blank begins with a token. -/
theorem exists_hasClass {c : Char} (hblank : isBlank c = false) (cs : List Char) :
    ∃ kind tail rest, cs = tail ++ rest ∧ HasClass kind (c :: tail) ∧
      ∀ d ∈ rest.head?, Stops kind (c :: tail) d := by
  cases hdigit : isDigit c with
  | true =>
      obtain ⟨tail, rest, hcs, hnumber, hstop⟩ := exists_number hdigit cs
      exact ⟨.number, tail, rest, hcs, .number hnumber, hstop⟩
  | false =>
      by_cases hmark : IsMark c
      · obtain ⟨kind, hkind⟩ := hmark
        refine ⟨kind, [], cs, rfl, .mark hkind, ?_⟩
        intro d _
        cases kind <;> simp [marks] at hkind <;> trivial
      · obtain ⟨tail, rest, rfl, htail, hrest⟩ := exists_run isWordChar cs
        have hchars : ∀ d ∈ c :: tail, isBlank d = false ∧ ¬ IsMark d :=
          List.forall_mem_cons.mpr ⟨⟨hblank, hmark⟩, fun d hd => isWordChar_iff.mp (htail d hd)⟩
        have hstop : ∀ d ∈ rest.head?, isBlank d = true ∨ IsMark d := by
          intro d hd
          have hword := hrest d hd
          rw [← Bool.not_eq_true, isWordChar_iff] at hword
          by_cases hd : IsMark d
          · exact Or.inr hd
          · simpa [hd] using hword
        by_cases hdef : c :: tail = "def".toList
        · refine ⟨.define, tail, rest, rfl, ?_, hstop⟩
          rw [hdef]
          exact .define
        · exact ⟨.ident, tail, rest, rfl, .word hdigit hchars hdef, hstop⟩

theorem Segmentation.blank {pos : Nat} {c : Char} {cs : List Char} {ts : List Token}
    (hblank : isBlank c = true) (h : Segmentation (pos + 1) cs ts) :
    Segmentation pos (c :: cs) ts := by
  generalize hpos : pos + 1 = next at h
  cases h with
  | done hgap => exact .done (List.forall_mem_cons.mpr ⟨hblank, hgap⟩)
  | @token _ gap text rest kind ts hgap htext hstop hrest =>
      have hlength : pos + (c :: gap).length = next + gap.length := by
        rw [List.length_cons]
        omega
      rw [← hlength] at hrest ⊢
      exact .token (List.forall_mem_cons.mpr ⟨hblank, hgap⟩) htext hstop hrest

/-- Every text has a segmentation. -/
theorem exists_segmentation (pos : Nat) (cs : List Char) : ∃ ts, Segmentation pos cs ts := by
  induction hlen : cs.length using Nat.strongRecOn generalizing pos cs with
  | ind n ih =>
    subst hlen
    cases cs with
    | nil => exact ⟨[], .done (by simp)⟩
    | cons c cs =>
        cases hblank : isBlank c with
        | true =>
            obtain ⟨ts, h⟩ := ih cs.length (Nat.lt_succ_self _) (pos + 1) cs rfl
            exact ⟨ts, h.blank hblank⟩
        | false =>
            obtain ⟨kind, tail, rest, rfl, htext, hstop⟩ := exists_hasClass hblank cs
            have hlt : rest.length < (c :: (tail ++ rest)).length := by
              simp only [List.length_cons, List.length_append]
              omega
            obtain ⟨ts, h⟩ := ih rest.length hlt (pos + 0 + (c :: tail).length) rest rfl
            exact ⟨_, @Segmentation.token pos [] (c :: tail) rest kind ts (by simp) htext hstop h⟩

/-- Under the rule that allows any word, every line is split, and its tokens
before the end token are its one and only segmentation. -/
theorem scan_eq_only_segmentation (source : String) :
    ∃ ts, Token.scan .any source = .ok (ts ++ [Token.endAt source.length]) ∧
      Segmentation 0 source.toList ts ∧
      ∀ ts', Segmentation 0 source.toList ts' → ts' = ts := by
  obtain ⟨ts, h⟩ := exists_segmentation 0 source.toList
  refine ⟨ts, ?_, h, ?_⟩
  · have hscan := h.scan_eq
    rw [Nat.zero_add, String.length_toList] at hscan
    exact hscan
  · intro ts' h'
    have hsame := h'.scan_eq.symm.trans h.scan_eq
    exact List.append_cancel_right (Except.ok.inj hsame)

end LineCalc.Lexer
