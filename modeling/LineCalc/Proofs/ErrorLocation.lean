import LineCalc.Proofs.Acceptance

/-!
# The location of parse errors

A parse error points at the first token with which the input is beyond repair.
The tokens before it can be continued to a program within the group limit, so
the error does not come too late to be fixed there; with the token itself no
continuation is a program, so it does not come too early.
-/

namespace LineCalc.Grammar

open LineCalc.Parser

/-- An error stands at the place of a token and names no other token. -/
def PointsAt (x : ParseError) (t : Token) : Prop :=
  x.pos = t.pos ∧ ∀ a, x.token? = some a → a = t

theorem Rejects.pointsAt {n : Nat} {phrase : Phrase} {u : List Token} {t : Token}
    {x : ParseError} (h : Rejects n phrase u t x) : PointsAt x t := by
  induction h with
  | inner _ _ ih => exact ih
  | first _ ih => exact ih
  | later _ _ _ _ ih => exact ih
  | _ => simp [PointsAt, ParseError.pos, ParseError.token?]

theorem RejectsProgram.pointsAt {u : List Token} {t : Token} {x : ParseError}
    (h : RejectsProgram u t x) : PointsAt x t := by
  induction h with
  | definition h =>
      cases h with
      | value _ _ _ h => exact h.pointsAt
      | _ => simp [PointsAt, ParseError.pos, ParseError.token?]
  | later _ _ _ ih => exact ih
  | result h _ => exact h.pointsAt
  | leftover _ _ _ _ => simp [PointsAt, ParseError.pos, ParseError.token?]

/-- What is read of a phrase before a rejected token can be completed without
opening more groups than allowed. -/
theorem Rejects.viable {n : Nat} {phrase : Phrase} {u : List Token} {t : Token}
    {x : ParseError} (h : Rejects n phrase u t x) :
    ∃ v e, Derives phrase (u ++ v) e ∧ e.groupDepth ≤ n := by
  have hoperand (n : Nat) : ∃ v e, Derives .primary ([] ++ v) e ∧ e.groupDepth ≤ n :=
    ⟨[⟨.number, "0", 0⟩], _, .number rfl, Nat.zero_le n⟩
  induction h with
  | finish _ => exact hoperand _
  | tooDeep _ => exact hoperand _
  | operand _ _ _ _ => exact hoperand _
  | @inner n o t u x ho _ ih =>
      obtain ⟨v, e, hv, hd⟩ := ih
      refine ⟨v ++ [⟨.rparen, ")", 0⟩], .group e, ?_, Nat.succ_le_succ hd⟩
      rw [List.cons_append, ← List.append_assoc]
      exact .group ho hv rfl
  | unclosed ho hw hd _ _ =>
      exact ⟨[⟨.rparen, ")", 0⟩], _, .group ho hw rfl, Nat.succ_le_succ hd⟩
  | first _ ih =>
      obtain ⟨v, e, hv, hd⟩ := ih
      exact ⟨v, e, .operand hv, hd⟩
  | @later n l s t w u e op x hw hd hs _ ih =>
      obtain ⟨v, f, hv, hdv⟩ := ih
      refine ⟨v, .binary op e f, ?_, Nat.max_le.mpr ⟨hd, hdv⟩⟩
      rw [List.append_assoc, List.cons_append]
      exact .operation hw hs hv

theorem RejectsDefinition.viable {u : List Token} {t : Token} {x : ParseError}
    (h : RejectsDefinition u t x) :
    ∃ v d, IsDefinition (u ++ v) d ∧ d.value.groupDepth ≤ groupLimit := by
  cases h with
  | name hk _ =>
      exact ⟨[⟨.ident, "x", 0⟩, ⟨.equal, "=", 0⟩, ⟨.number, "0", 0⟩, ⟨.semicolon, ";", 0⟩], _,
        .intro hk rfl rfl (.ofNumber rfl) rfl, Nat.zero_le _⟩
  | equal hk ha _ =>
      exact ⟨[⟨.equal, "=", 0⟩, ⟨.number, "0", 0⟩, ⟨.semicolon, ";", 0⟩], _,
        .intro hk ha rfl (.ofNumber rfl) rfl, Nat.zero_le _⟩
  | @value k a q t u x hk ha hq h =>
      obtain ⟨v, e, hv, hd⟩ := h.viable
      refine ⟨v ++ [⟨.semicolon, ";", 0⟩], ⟨a.text, e⟩, ?_, hd⟩
      simp only [List.cons_append, ← List.append_assoc]
      exact .intro hk ha hq hv rfl
  | semicolon hk ha hq hw hd _ _ =>
      exact ⟨[⟨.semicolon, ";", 0⟩], _, .intro hk ha hq hw rfl, hd⟩

/-- What is read of a program before a rejected token can be completed. -/
theorem RejectsProgram.viable {u : List Token} {t : Token} {x : ParseError}
    (h : RejectsProgram u t x) :
    ∃ v p, IsProgram (u ++ v) p ∧ p.groupDepth ≤ groupLimit := by
  induction h with
  | definition h =>
      obtain ⟨v, d, hv, hd⟩ := h.viable
      refine ⟨v ++ [⟨.number, "0", 0⟩], ⟨[d], .literal "0"⟩, ?_,
        Nat.max_le.mpr ⟨hd, Nat.zero_le _⟩⟩
      rw [← List.append_assoc]
      exact .definition hv (.result (.ofNumber rfl))
  | @later t v u d x hd hdepth _ ih =>
      obtain ⟨w, p, hp, hpd⟩ := ih
      refine ⟨w, ⟨d :: p.definitions, p.result⟩, ?_, Nat.max_le.mpr ⟨hdepth, hpd⟩⟩
      rw [List.append_assoc]
      exact .definition hd hp
  | result h _ =>
      obtain ⟨v, e, hv, hd⟩ := h.viable
      exact ⟨v, ⟨[], e⟩, .result hv, hd⟩
  | @leftover t w e hw hd _ _ =>
      refine ⟨[], ⟨[], e⟩, ?_, hd⟩
      rw [List.append_nil]
      exact .result hw

theorem IsDefinition.kind_ne_eof {w : List Token} {d : Definition} (h : IsDefinition w d) :
    ∀ a ∈ w, a.kind ≠ .eof := by
  obtain ⟨hk, ha, hq, hw, hs⟩ := h
  intro a hmem
  simp only [List.mem_cons, List.mem_append, List.not_mem_nil, or_false] at hmem
  rcases hmem with rfl | rfl | rfl | hmem | rfl
  · simp [hk]
  · simp [ha]
  · simp [hq]
  · exact (hw.inExpression a hmem).2.2.2
  · simp [hs]

theorem IsProgram.kind_ne_eof {w : List Token} {p : Program} (h : IsProgram w p) :
    ∀ a ∈ w, a.kind ≠ .eof := by
  induction h with
  | result hw => exact fun a ha => (hw.inExpression a ha).2.2.2
  | definition hd _ ih =>
      intro a ha
      rcases List.mem_append.mp ha with ha | ha
      · exact hd.kind_ne_eof a ha
      · exact ih a ha

/-- The tokens in front of the first end token. -/
def beforeEnd (ts : List Token) : List Token := ts.takeWhile fun t => t.kind ≠ .eof

theorem beforeEnd_append {finish : Int} {w rest : List Token} (hw : ∀ a ∈ w, a.kind ≠ .eof)
    (hrest : (current finish rest).kind = .eof) : beforeEnd (w ++ rest) = w := by
  have hnone : beforeEnd rest = [] := by
    rcases (current_kind_eq_eof_iff finish rest).mp hrest with rfl | ⟨t, us, rfl, ht⟩
    · rfl
    · simp [beforeEnd, ht]
  have hwhole : beforeEnd (w ++ rest) = w ++ beforeEnd rest :=
    List.takeWhile_append_of_pos (by simpa using hw)
  rw [hwhole, hnone, List.append_nil]

/-- Every token list is what stands in front of its end, and the end behind it. -/
theorem exists_beforeEnd_append (finish : Int) (ts : List Token) :
    ∃ rest, ts = beforeEnd ts ++ rest ∧ (current finish rest).kind = .eof := by
  induction ts with
  | nil => exact ⟨[], rfl, rfl⟩
  | cons t ts ih =>
      by_cases ht : t.kind = .eof
      · exact ⟨t :: ts, by simp [beforeEnd, ht], ht⟩
      · obtain ⟨rest, hts, hrest⟩ := ih
        have hcons : beforeEnd (t :: ts) = t :: beforeEnd ts := by simp [beforeEnd, ht]
        exact ⟨rest, by rw [hcons, List.cons_append, ← hts], hrest⟩

/-- A token list is accepted exactly if what stands in front of its end is a program
within the group limit. -/
theorem ofTokens_eq_ok_iff {ts : List Token} {p : Program} :
    Program.ofTokens ts = .ok p ↔ IsProgram (beforeEnd ts) p ∧ p.groupDepth ≤ groupLimit := by
  constructor
  · intro h
    have hread := explains_readProgram (finishOf ts) ts
    rw [← ofTokens_eq_readProgram, h] at hread
    obtain ⟨w, rest, rfl, hp, hd, heof⟩ := hread
    rw [beforeEnd_append hp.kind_ne_eof heof]
    exact ⟨hp, hd⟩
  · rintro ⟨hp, hd⟩
    obtain ⟨rest, hts, heof⟩ := exists_beforeEnd_append (finishOf ts) ts
    have hread : readProgram (finishOf ts) (beforeEnd ts ++ rest) = .ok p :=
      readProgram_eq_ok hp hd heof
    rwa [← hts] at hread

theorem IsProgram.ofTokens_eq {w : List Token} {p : Program} (h : IsProgram w p)
    (hd : p.groupDepth ≤ groupLimit) : Program.ofTokens w = .ok p := by
  have hread : readProgram (finishOf w) (w ++ []) = .ok p := readProgram_eq_ok h hd rfl
  rwa [List.append_nil] at hread

/-- A list without end tokens that is accepted is a program as a whole. -/
theorem isProgram_of_accepted {u : List Token} {p : Program} (hu : ∀ a ∈ u, a.kind ≠ .eof)
    (h : Program.ofTokens u = .ok p) : IsProgram u p ∧ p.groupDepth ≤ groupLimit := by
  have hwhole : beforeEnd (u ++ []) = u := @beforeEnd_append 0 u [] hu rfl
  rw [List.append_nil] at hwhole
  rw [ofTokens_eq_ok_iff, hwhole] at h
  exact h

/-- The token `t` behind `u` is the first one with which `ts` is beyond repair,
and the error `x` stands at it. -/
structure FirstHopeless (ts : List Token) (x : ParseError) (u : List Token) (t : Token) :
    Prop where
  /-- The token follows `u`, or `u` is all there is and the input ends. -/
  follows : (∃ rest, ts = u ++ t :: rest) ∨ (ts = u ∧ t = Token.endAt (finishOf ts))
  kind_ne_eof : ∀ a ∈ u, a.kind ≠ .eof
  pointsAt : PointsAt x t
  viable : ∃ w p, Program.ofTokens (u ++ w) = .ok p
  /-- No continuation of the token is accepted; all fail with the same error. -/
  hopeless : t.kind ≠ .eof → ∀ w, Program.ofTokens (u ++ [t] ++ w) = .error x
  incomplete : t.kind = .eof → ∃ y, Program.ofTokens u = .error y

/-- Every parse error stands at the first token with which the input is beyond
repair. -/
theorem exists_firstHopeless_of_error {ts : List Token} {x : ParseError}
    (h : Program.ofTokens ts = .error x) : ∃ u t, FirstHopeless ts x u t := by
  have hread := explains_readProgram (finishOf ts) ts
  rw [← ofTokens_eq_readProgram, h] at hread
  obtain ⟨u, rest, hts, hx⟩ := hread
  obtain ⟨v, p, hp, hd⟩ := hx.viable
  have hu : ∀ a ∈ u, a.kind ≠ .eof := fun a ha =>
    hp.kind_ne_eof a (List.mem_append_left v ha)
  refine ⟨u, current (finishOf ts) rest, ?_, hu, hx.pointsAt, ?_, ?_, ?_⟩
  · cases rest with
    | nil => exact Or.inr ⟨by simpa using hts, rfl⟩
    | cons t rest => exact Or.inl ⟨rest, hts⟩
  · have hok : Program.ofTokens (u ++ v ++ []) = .ok p := readProgram_eq_ok hp hd rfl
    exact ⟨v, p, by simpa using hok⟩
  · intro _ w
    -- The rejection mentions the token only, so it stands whatever follows.
    rw [List.append_assoc]
    exact readProgram_eq_error hx
  · intro heof
    cases hself : Program.ofTokens u with
    | error y => exact ⟨y, rfl⟩
    | ok q =>
        obtain ⟨hq, hqd⟩ := isProgram_of_accepted hu hself
        have hok := readProgram_eq_ok hq hqd heof
        rw [← hts, ← ofTokens_eq_readProgram, h] at hok
        cases hok

/-- In `(1 =` the error stands at the equals sign. -/
theorem exists_firstHopeless_unclosed :
    Program.ofTokens [⟨.lparen, "(", 0⟩, ⟨.number, "1", 1⟩, ⟨.equal, "=", 3⟩] =
      .error (.unclosedGroup ⟨.equal, "=", 3⟩ 0) ∧
    ∃ u t, FirstHopeless [⟨.lparen, "(", 0⟩, ⟨.number, "1", 1⟩, ⟨.equal, "=", 3⟩]
      (.unclosedGroup ⟨.equal, "=", 3⟩ 0) u t :=
  ⟨by cbv, exists_firstHopeless_of_error (by cbv)⟩

end LineCalc.Grammar
