import LineCalc.Proofs.ErrorLocation

/-!
# The kinds of parse errors

The error about an offending token can be told from the tokens before it. Where
an operand is expected, the token itself decides. Otherwise a group that is still
open comes first, then a definition that is not complete, and if there is neither,
the tokens are a program and the offending one is left over.

## Implementation notes

That an operand is expected is a statement about all continuations of the tokens.
It is refuted by the rejection of a number in place of the offending token.
-/

namespace LineCalc.Grammar

open LineCalc.Parser

variable {ts u v w : List Token} {t : Token} {x : ParseError}

/-- The open parentheses after a token, given those before it, the innermost first. -/
def openersAfter (openers : List Token) (t : Token) : List Token :=
  match t.kind with
  | .lparen => t :: openers
  | .rparen => openers.tail
  | _ => openers

/-- The parentheses that some tokens leave open, the innermost first. -/
def openers (w : List Token) : List Token := w.foldl openersAfter []

theorem length_foldl_openersAfter (os w : List Token) :
    (w.foldl openersAfter os).length = w.foldl openAfter os.length := by
  induction w generalizing os with
  | nil => rfl
  | cons t w ih =>
      have hstep : (openersAfter os t).length = openAfter os.length t := by
        unfold openersAfter openAfter
        cases t.kind <;> simp
      rw [List.foldl_cons, List.foldl_cons, ih, hstep]

/-- There are as many open parentheses as open groups. -/
theorem length_openers (w : List Token) : (openers w).length = openGroups w :=
  length_foldl_openersAfter [] w

/-- The tokens hold a `def`, and no semicolon follows the last one. -/
def Defining (u : List Token) : Prop :=
  ∃ before k after, u = before ++ k :: after ∧ k.kind = .define ∧
    ∀ a ∈ after, a.kind ≠ .define ∧ a.kind ≠ .semicolon

/-- What stands up to a semicolon does not count. -/
theorem defining_append_semicolon {s : Token} (hs : s.kind = .semicolon) :
    Defining (v ++ s :: u) ↔ Defining u := by
  constructor
  · rintro ⟨before, k, after, heq, hk, hafter⟩
    have hne : s ≠ k := by
      rintro rfl
      rw [hs] at hk
      cases hk
    rcases List.append_eq_append_iff.mp heq with ⟨mid, rfl, hmid⟩ | ⟨mid, rfl, hmid⟩
    · cases mid with
      | nil => exact absurd (List.cons.inj hmid).1 hne
      | cons s mid =>
          cases hmid
          exact ⟨mid, k, after, rfl, hk, hafter⟩
    · cases mid with
      | nil => exact absurd (List.cons.inj hmid).1.symm hne
      | cons k mid =>
          -- The semicolon would follow the last `def`.
          cases hmid
          exact absurd hs (hafter s (by simp)).2
  · rintro ⟨before, k, after, rfl, hk, hafter⟩
    exact ⟨v ++ s :: before, k, after, by simp, hk, hafter⟩

/-- An operand is expected: the tokens can be continued with a number. -/
def ExpectsOperand (u : List Token) : Prop :=
  ∃ (a : Token) (w : List Token) (p : Program),
    a.kind = .number ∧ Program.ofTokens (u ++ [a] ++ w) = .ok p

/-- The token `t` behind `u` is the first one with which `ts` cannot be continued
to a program, or the end of `ts` if there is none. Unlike `FirstHopeless`, this says
nothing of an error. -/
structure Offends (ts u : List Token) (t : Token) : Prop where
  follows : ∃ rest, ts = u ++ rest ∧ t = current (finishOf ts) rest
  kind_ne_eof : ∀ a ∈ u, a.kind ≠ .eof
  viable : ∃ w p, Program.ofTokens (u ++ w) = .ok p
  hopeless : t.kind ≠ .eof → ∀ w p, Program.ofTokens (u ++ [t] ++ w) ≠ .ok p

/-- Behind an offending token no other one offends. -/
theorem Offends.eq_nil_of_append {a : Token} (h : Offends ts u t) (h' : Offends ts (u ++ v) a) :
    v = [] := by
  cases v with
  | nil => rfl
  | cons b v =>
      obtain ⟨rest, hts, ht⟩ := h.follows
      obtain ⟨rest', hts', -⟩ := h'.follows
      obtain ⟨w, p, hp⟩ := h'.viable
      rw [List.append_assoc, hts] at hts'
      obtain rfl : t = b := by rw [ht, List.append_cancel_left hts']; rfl
      refine absurd ?_ (h.hopeless (h'.kind_ne_eof t (by simp)) (v ++ w) p)
      simpa only [List.append_assoc, List.cons_append, List.nil_append] using hp

theorem Offends.unique {u' : List Token} {t' : Token} (h : Offends ts u t)
    (h' : Offends ts u' t') : u = u' ∧ t = t' := by
  obtain ⟨rest, hts, rfl⟩ := h.follows
  obtain ⟨rest', hts', rfl⟩ := h'.follows
  have hsame : u = u' := by
    rcases List.append_eq_append_iff.mp (hts.symm.trans hts') with ⟨v, rfl, -⟩ | ⟨v, rfl, -⟩
    · rw [h.eq_nil_of_append h', List.append_nil]
    · rw [h'.eq_nil_of_append h, List.append_nil]
  subst hsame
  rw [List.append_cancel_left (hts.symm.trans hts')]
  exact ⟨rfl, rfl⟩

theorem RejectsProgram.ofTokens_append (h : RejectsProgram u t x) (w : List Token) :
    Program.ofTokens (u ++ [t] ++ w) = .error x := by
  rw [List.append_assoc]
  exact readProgram_eq_error h

/-- The token that is rejected is the offending one. -/
theorem RejectsProgram.offends {rest : List Token}
    (h : RejectsProgram u (current (finishOf ts) rest) x) (hts : ts = u ++ rest) :
    Offends ts u (current (finishOf ts) rest) := by
  obtain ⟨v, p, hp, hd⟩ := h.viable
  refine ⟨⟨rest, hts, rfl⟩, ?_, ⟨v, p, hp.ofTokens_eq hd⟩, ?_⟩
  · intro a ha
    exact hp.kind_ne_eof a (List.mem_append_left v ha)
  · intro _ w q hq
    rw [h.ofTokens_append w] at hq
    cases hq

/-- The error about a token that stands where an operand is expected. -/
def operandError (t : Token) : ParseError :=
  match t.kind with
  | .eof => .unexpectedEnd t.pos
  | .lparen => .nestingTooDeep t 100
  | _ => .unexpectedToken t .operand

/-- A token is rejected in place of an operand: with a number there, the tokens
could still become complete, and a parenthesis is one group too many. -/
structure LacksOperand (Complete : List Token → Prop) (groups : Nat) (u : List Token) (t : Token)
    (x : ParseError) : Prop where
  error_eq : x = operandError t
  completes : ∀ a : Token, a.kind = .number → ∃ v, Complete (u ++ a :: v)
  full : t.kind = .lparen → ∀ n, u.foldl openAfter n = n + groups

/-- A token is rejected in place of a parenthesis that closes a group, and so
would a number be. -/
structure LacksClosing (Rejected : Token → ParseError → Prop) (u : List Token) (t : Token)
    (x : ParseError) : Prop where
  opener : ∃ o, x = .unclosedGroup t o.pos ∧ ∀ os, ∃ below, u.foldl openersAfter os = o :: below
  number : ∀ a : Token, a.kind = .number → ∃ y, Rejected a y

variable {n k : Nat}

theorem LacksOperand.append_left {C D : List Token → Prop} (h : LacksOperand C n u t x)
    (hcomplete : ∀ w, C w → ∃ z, D (v ++ w ++ z))
    (hopen : ∀ m, v.foldl openAfter m = m + k) : LacksOperand D (n + k) (v ++ u) t x := by
  refine ⟨h.error_eq, ?_, ?_⟩
  · intro a ha
    obtain ⟨w, hw⟩ := h.completes a ha
    obtain ⟨z, hz⟩ := hcomplete _ hw
    exact ⟨w ++ z, by simpa using hz⟩
  · intro ht m
    rw [List.foldl_append, hopen, h.full ht]
    omega

theorem LacksClosing.append_left {R S : Token → ParseError → Prop} (h : LacksClosing R u t x)
    (hrejects : ∀ a y, R a y → S a y) (v : List Token) : LacksClosing S (v ++ u) t x := by
  obtain ⟨o, hx, hopen⟩ := h.opener
  refine ⟨⟨o, hx, ?_⟩, ?_⟩
  · intro os
    rw [List.foldl_append]
    exact hopen _
  · intro a ha
    obtain ⟨y, hy⟩ := h.number a ha
    exact ⟨y, hrejects a y hy⟩

theorem openersAfter_sign {l : Level} {s : Token} {op : Operator} (h : Sign l s.kind op)
    (os : List Token) : openersAfter os s = os := by
  unfold openersAfter
  generalize s.kind = kind at h
  cases h <;> rfl

/-- A phrase leaves open what is open before it. -/
theorem Derives.foldl_openersAfter {phrase : Phrase} {e : Expr} (h : Derives phrase w e)
    (os : List Token) : w.foldl openersAfter os = os := by
  induction h generalizing os with
  | number h => simp [openersAfter, h]
  | name h => simp [openersAfter, h]
  | group ho _ hc ih => simp [openersAfter, ho, hc, ih]
  | operand _ ih => exact ih os
  | operation _ hs _ ihw ihv => simp [openersAfter_sign hs, ihw, ihv]

theorem IsDefinition.openers_append {d : Definition} (h : IsDefinition v d) (u : List Token) :
    openers (v ++ u) = openers u := by
  obtain ⟨hk, ha, hq, hw, hs⟩ := h
  simp [openers, openersAfter, hk, ha, hq, hs, hw.foldl_openersAfter]

theorem ends_number {a : Token} (ha : a.kind = .number) (phrase : Phrase) :
    Ends phrase a.kind := by
  rintro l - op hs
  rw [ha] at hs
  cases hs

/-- A phrase in which at most `n` more groups are opened. -/
def IsPhrase (n : Nat) (phrase : Phrase) (w : List Token) : Prop :=
  ∃ e, Derives phrase w e ∧ e.groupDepth ≤ n

/-- A token is rejected within an expression in place of an operand or of a
closing parenthesis. -/
theorem Rejects.lacks {phrase : Phrase} (h : Rejects n phrase u t x) :
    LacksOperand (IsPhrase n phrase) n u t x ∨ LacksClosing (Rejects n phrase u) u t x := by
  have hnumber (n : Nat) (a : Token) (ha : a.kind = .number) :
      ∃ v, IsPhrase n .primary ([] ++ a :: v) := ⟨[], _, .number ha, Nat.zero_le n⟩
  induction h with
  | finish h => exact Or.inl ⟨by simp [operandError, h], hnumber _, by simp [h]⟩
  | tooDeep h => exact Or.inl ⟨by simp [operandError, h, groupLimit], hnumber _, by simp⟩
  | @operand n t hnumber' hname hopen heof =>
      refine Or.inl ⟨?_, hnumber _, fun h => absurd h hopen⟩
      unfold operandError
      split <;> simp_all
  | @inner n o t u x ho _ ih =>
      rcases ih with h | h
      · left
        apply h.append_left (v := [o])
        · rintro w ⟨e, hw, hd⟩
          exact ⟨[⟨.rparen, ")", 0⟩], .group e, .group ho hw rfl, Nat.succ_le_succ hd⟩
        · simp [openAfter, ho]
      · exact Or.inr (h.append_left (fun a y => .inner ho) [o])
  | @unclosed n o t w e ho hw hd _ _ =>
      refine Or.inr ⟨⟨o, rfl, fun os => ⟨os, ?_⟩⟩, fun a ha => ⟨_, .unclosed ho hw hd ?_ ?_⟩⟩
      · simp [openersAfter, ho, hw.foldl_openersAfter]
      · exact ends_number ha _
      · simp [ha]
  | @first n l t u x _ ih =>
      rcases ih with h | h
      · left
        apply h.append_left (v := []) (k := 0)
        · rintro w ⟨e, hw, hd⟩
          exact ⟨[], e, by simpa using Derives.operand hw, hd⟩
        · intro m
          rfl
      · exact Or.inr (h.append_left (fun a y => .first) [])
  | @later n l s t w u e op x hw hd hs _ ih =>
      rw [List.append_cons]
      rcases ih with h | h
      · left
        apply h.append_left (k := 0)
        · rintro v ⟨f, hv, hdv⟩
          refine ⟨[], .binary op e f, ?_, Nat.max_le.mpr ⟨hd, hdv⟩⟩
          simpa using Derives.operation hw hs hv
        · intro m
          simp [(hw.open_peak m).1, openAfter_sign hs]
      · right
        apply h.append_left
        intro a y hy
        rw [List.append_assoc]
        exact .later hw hd hs hy

/-- How a token is rejected behind tokens that do not lack an operand. -/
inductive Refuses (u : List Token) (t : Token) : ParseError → Prop
  | unclosed {o : Token} {below : List Token} (h : openers u = o :: below) :
      Refuses u t (.unclosedGroup t o.pos)
  | malformed (hopen : openers u = []) (hdefining : Defining u) (expected : Expectation) :
      Refuses u t (.malformedStatement t expected)
  | leftover {p : Program} (hopen : openers u = []) (hdefining : ¬ Defining u)
      (hp : IsProgram u p) (hd : p.groupDepth ≤ groupLimit) (ht : t.kind ≠ .eof) :
      Refuses u t (.unexpectedToken t .afterExpression)

theorem LacksClosing.refuses {R : Token → ParseError → Prop} (h : LacksClosing R u t x) :
    Refuses u t x := by
  obtain ⟨o, rfl, hopen⟩ := h.opener
  obtain ⟨below, hbelow⟩ := hopen []
  exact .unclosed hbelow

theorem IsDefinition.defining_append {d : Definition} (h : IsDefinition v d) :
    Defining (v ++ u) ↔ Defining u := by
  obtain @⟨k, a, q, s, w, e, -, -, -, -, hs⟩ := h
  have happend : k :: a :: q :: (w ++ [s]) ++ u = k :: a :: q :: w ++ s :: u := by simp
  rw [happend, defining_append_semicolon hs]

/-- Complete definitions in front of the tokens change nothing. -/
theorem Refuses.append_definition {d : Definition} (h : Refuses u t x) (hv : IsDefinition v d)
    (hdepth : d.value.groupDepth ≤ groupLimit) : Refuses (v ++ u) t x := by
  cases h with
  | unclosed h => exact .unclosed (by rw [hv.openers_append, h])
  | malformed hopen hdefining expected =>
      refine .malformed ?_ (hv.defining_append.mpr hdefining) expected
      rw [hv.openers_append, hopen]
  | @leftover p hopen hdefining hp hd ht =>
      refine .leftover ?_ (mt hv.defining_append.mp hdefining) (.definition hv hp)
        (Nat.max_le.mpr ⟨hdepth, hd⟩) ht
      rw [hv.openers_append, hopen]

/-- Tokens that hold no `def` and no semicolon begin a definition behind `def`. -/
theorem defining_cons {k : Token} (hk : k.kind = .define)
    (h : ∀ a ∈ u, a.kind ≠ .define ∧ a.kind ≠ .semicolon) : Defining (k :: u) :=
  ⟨[], k, u, rfl, hk, h⟩

theorem Derives.not_defining {phrase : Phrase} {e : Expr} (h : Derives phrase w e) :
    ¬ Defining w := by
  rintro ⟨before, k, after, rfl, hk, -⟩
  exact (h.inExpression k (by simp)).1 hk

/-- A program, within the group limit. -/
def IsProgramWithin (w : List Token) : Prop :=
  ∃ p, IsProgram w p ∧ p.groupDepth ≤ groupLimit

theorem RejectsDefinition.lacks (h : RejectsDefinition u t x) :
    LacksOperand IsProgramWithin groupLimit u t x ∨
      Refuses u t x ∧ ∀ a : Token, a.kind = .number → ∃ y, RejectsDefinition u a y := by
  cases h with
  | name hk _ =>
      refine Or.inr ⟨.malformed ?_ (defining_cons hk (by simp)) _, fun a ha => ⟨_, .name hk ?_⟩⟩
      · simp [openers, openersAfter, hk]
      · simp [ha]
  | equal hk ha _ =>
      refine Or.inr ⟨.malformed ?_ (defining_cons hk ?_) _, fun b hb => ⟨_, .equal hk ha ?_⟩⟩
      · simp [openers, openersAfter, hk, ha]
      · simp [ha]
      · simp [hb]
  | @value k a q t u x hk ha hq h =>
      rcases h.lacks with h | h
      · left
        apply h.append_left (v := [k, a, q]) (k := 0)
        · rintro w ⟨e, hw, hd⟩
          refine ⟨[⟨.semicolon, ";", 0⟩, ⟨.number, "0", 0⟩], ⟨[⟨a.text, e⟩], .literal "0"⟩, ?_,
            Nat.max_le.mpr ⟨hd, Nat.zero_le _⟩⟩
          have hvalue := IsDefinition.intro (s := ⟨.semicolon, ";", 0⟩) hk ha hq hw rfl
          have hresult := Derives.ofNumber (t := ⟨.number, "0", 0⟩) rfl
          simpa using IsProgram.definition hvalue (.result hresult)
        · intro m
          simp [openAfter, hk, ha, hq]
      · refine Or.inr ⟨(h.append_left (fun b y hy => hy) [k, a, q]).refuses, fun b hb => ?_⟩
        obtain ⟨y, hy⟩ := h.number b hb
        exact ⟨y, .value hk ha hq hy⟩
  | @semicolon k a q t w e hk ha hq hw hd _ _ =>
      refine Or.inr ⟨.malformed ?_ (defining_cons hk ?_) _, fun b hb => ⟨_,
        .semicolon hk ha hq hw hd (ends_number hb _) ?_⟩⟩
      · simp [openers, openersAfter, hk, ha, hq, hw.foldl_openersAfter]
      · have hinner : ∀ b ∈ w, b.kind ≠ .define ∧ b.kind ≠ .semicolon := fun b hb =>
          ⟨(hw.inExpression b hb).1, (hw.inExpression b hb).2.2.1⟩
        simpa [ha, hq] using hinner
      · simp [hb]

/-- A token is rejected in place of an operand, or it is refused and so would a
number be. -/
theorem RejectsProgram.lacks (h : RejectsProgram u t x) :
    LacksOperand IsProgramWithin groupLimit u t x ∨
      Refuses u t x ∧ ∀ a : Token, a.kind = .number → ∃ y, RejectsProgram u a y := by
  induction h with
  | definition h =>
      rcases h.lacks with h | ⟨h, hnumber⟩
      · exact Or.inl h
      · refine Or.inr ⟨h, fun a ha => ?_⟩
        obtain ⟨y, hy⟩ := hnumber a ha
        exact ⟨y, .definition hy⟩
  | @later t v u d x hv hdepth _ ih =>
      rcases ih with h | ⟨h, hnumber⟩
      · left
        apply h.append_left (k := 0)
        · rintro w ⟨p, hp, hd⟩
          refine ⟨[], ⟨d :: p.definitions, p.result⟩, ?_, Nat.max_le.mpr ⟨hdepth, hd⟩⟩
          rw [List.append_nil]
          exact .definition hv hp
        · intro m
          exact (hv.open_peak m).1
      · refine Or.inr ⟨h.append_definition hv hdepth, fun a ha => ?_⟩
        obtain ⟨y, hy⟩ := hnumber a ha
        exact ⟨y, .later hv hdepth hy⟩
  | @result t u x h _ =>
      rcases h.lacks with h | h
      · left
        apply h.append_left (v := []) (k := 0)
        · rintro w ⟨e, hw, hd⟩
          exact ⟨[], ⟨[], e⟩, by simpa using IsProgram.result hw, hd⟩
        · intro m
          rfl
      · refine Or.inr ⟨h.refuses, fun a ha => ?_⟩
        obtain ⟨y, hy⟩ := h.number a ha
        exact ⟨y, .result hy fun _ => by simp [ha]⟩
  | @leftover t w e hw hd hend ht =>
      refine Or.inr ⟨.leftover ?_ hw.not_defining (.result hw) hd ht, fun a ha => ⟨_,
        .leftover hw hd (ends_number ha _) ?_⟩⟩
      · exact hw.foldl_openersAfter []
      · simp [ha]

theorem LacksOperand.expectsOperand (h : LacksOperand IsProgramWithin n u t x) :
    ExpectsOperand u := by
  obtain ⟨v, p, hp, hd⟩ := h.completes ⟨.number, "0", 0⟩ rfl
  refine ⟨⟨.number, "0", 0⟩, v, p, rfl, ?_⟩
  rw [List.append_assoc]
  exact hp.ofTokens_eq hd

theorem not_expectsOperand (h : ∀ a : Token, a.kind = .number → ∃ y, RejectsProgram u a y) :
    ¬ ExpectsOperand u := by
  rintro ⟨a, w, p, ha, hp⟩
  obtain ⟨y, hy⟩ := h a ha
  rw [hy.ofTokens_append w] at hp
  cases hp

/-- The error `x` is the one that the offending token `t` calls for behind `u`. -/
structure CalledFor (u : List Token) (t : Token) (x : ParseError) : Prop where
  operand : ExpectsOperand u → x = operandError t
  /-- A parenthesis in place of an operand is the first one beyond the limit. -/
  full : ExpectsOperand u → t.kind = .lparen → (openers u).length = 100
  /-- Where no operand is expected, the innermost open group comes first. -/
  unclosed : ¬ ExpectsOperand u → ∀ o below, openers u = o :: below → x = .unclosedGroup t o.pos
  malformed : ¬ ExpectsOperand u → openers u = [] → Defining u →
    ∃ expected, x = .malformedStatement t expected
  /-- If nothing is open, the tokens are a program and the offending one is left over. -/
  leftover : ¬ ExpectsOperand u → openers u = [] → ¬ Defining u →
    (∃ p, Program.ofTokens u = .ok p) ∧ t.kind ≠ .eof ∧ x = .unexpectedToken t .afterExpression

theorem LacksOperand.calledFor (h : LacksOperand IsProgramWithin groupLimit u t x) :
    CalledFor u t x := by
  have hexpects := h.expectsOperand
  constructor
  · intro _
    exact h.error_eq
  · intro _ ht
    rw [length_openers, openGroups, h.full ht]
    rfl
  all_goals
    intro hnot
    exact absurd hexpects hnot

theorem Refuses.calledFor (h : Refuses u t x) (hnot : ¬ ExpectsOperand u) : CalledFor u t x := by
  refine ⟨fun hexpects => absurd hexpects hnot, fun hexpects => absurd hexpects hnot, ?_, ?_, ?_⟩
  all_goals intro _
  · cases h with
    | unclosed hopen => simp [hopen]
    | malformed hopen _ _ => simp [hopen]
    | leftover hopen _ _ _ _ => simp [hopen]
  · cases h with
    | unclosed hopen => simp [hopen]
    | malformed _ _ expected => exact fun _ _ => ⟨expected, rfl⟩
    | leftover _ hdefining _ _ _ => exact fun _ h => absurd h hdefining
  · cases h with
    | unclosed hopen => simp [hopen]
    | malformed _ hdefining _ => exact fun _ h => absurd hdefining h
    | leftover _ _ hp hd ht => exact fun _ _ => ⟨⟨_, hp.ofTokens_eq hd⟩, ht, rfl⟩

/-- Where reading fails there is one offending token, and the error is the one that
this token calls for behind the tokens before it. -/
theorem exists_offends_of_error {ts : List Token} {x : ParseError}
    (h : Program.ofTokens ts = .error x) :
    (∃ u t, Offends ts u t) ∧ ∀ u t, Offends ts u t → CalledFor u t x := by
  have hread := explains_readProgram (finishOf ts) ts
  rw [← ofTokens_eq_readProgram, h] at hread
  obtain ⟨u, rest, hts, hx⟩ := hread
  have hoffends := hx.offends hts
  refine ⟨⟨u, _, hoffends⟩, ?_⟩
  intro u' t' h'
  obtain ⟨rfl, rfl⟩ := hoffends.unique h'
  rcases hx.lacks with hlacks | ⟨hrefuses, hnumber⟩
  · exact hlacks.calledFor
  · exact hrefuses.calledFor (not_expectsOperand hnumber)

/-- In `(1 + (2;` the semicolon offends, and the inner group is named. -/
theorem exists_offends_unclosed :
    Program.ofTokens [⟨.lparen, "(", 0⟩, ⟨.number, "1", 1⟩, ⟨.plus, "+", 3⟩, ⟨.lparen, "(", 5⟩,
        ⟨.number, "2", 6⟩, ⟨.semicolon, ";", 7⟩] =
      .error (.unclosedGroup ⟨.semicolon, ";", 7⟩ 5) ∧
    ∃ u t, Offends [⟨.lparen, "(", 0⟩, ⟨.number, "1", 1⟩, ⟨.plus, "+", 3⟩, ⟨.lparen, "(", 5⟩,
        ⟨.number, "2", 6⟩, ⟨.semicolon, ";", 7⟩] u t ∧
      CalledFor u t (.unclosedGroup ⟨.semicolon, ";", 7⟩ 5) := by
  have h : Program.ofTokens [⟨.lparen, "(", 0⟩, ⟨.number, "1", 1⟩, ⟨.plus, "+", 3⟩,
      ⟨.lparen, "(", 5⟩, ⟨.number, "2", 6⟩, ⟨.semicolon, ";", 7⟩] =
      .error (.unclosedGroup ⟨.semicolon, ";", 7⟩ 5) := by cbv
  obtain ⟨⟨u, t, hoffends⟩, hcalled⟩ := exists_offends_of_error h
  exact ⟨h, u, t, hoffends, hcalled u t hoffends⟩

end LineCalc.Grammar
