import LineCalc.Proofs.Reading.Expression

/-!
# Reading programs

The reader of programs finds exactly the programs of the grammar whose groups
stay within the limit, and on all other inputs it reports the error with which
the grammar rejects a token. Both facts follow the definitions of a program one
by one and rest on those about expressions.
-/

namespace LineCalc.Parser

open Grammar

variable {finish : Int} {n : Nat}

/-- Read a program up to the end of the input, whose offset is given. -/
def readProgram (finish : Int) (ts : List Token) : Except ParseError Program :=
  match (definitions finish ts).2 with
  | .error x => .error x
  | .ok rest =>
      match result finish rest with
      | .error x => .error x
      | .ok e => .ok ⟨(definitions finish ts).1, e⟩

theorem ofTokens_eq_readProgram (ts : List Token) :
    Program.ofTokens ts = readProgram (finishOf ts) ts := rfl

theorem definition_no_name {ts : List Token} (h : (current finish ts).kind ≠ .ident) :
    outcome (definition finish n ts) =
      .error (.malformedStatement (current finish ts) .name) := by
  simp [definition, take?_eq_none h, outcome]

theorem definition_no_equal {a : Token} {ts : List Token} (ha : a.kind = .ident)
    (h : (current finish ts).kind ≠ .equal) :
    outcome (definition finish n (a :: ts)) =
      .error (.malformedStatement (current finish ts) (.equal a.text)) := by
  simp [definition, take?_of_kind ha, take?_eq_none h, outcome]

theorem definition_of_error {a q : Token} {ts : List Token} {x : ParseError}
    (ha : a.kind = .ident) (hq : q.kind = .equal)
    (h : read finish n .expression ts = .error x) :
    outcome (definition finish n (a :: q :: ts)) = .error x := by
  have h : expression finish n ts = .error x := eq_error_of_outcome h
  simp [definition, take?_of_kind ha, take?_of_kind hq, h, outcome]

theorem definition_no_semicolon {a q : Token} {ts rest : List Token} {e : Expr}
    (ha : a.kind = .ident) (hq : q.kind = .equal)
    (h : read finish n .expression ts = .ok (e, rest))
    (hs : (current finish rest).kind ≠ .semicolon) :
    outcome (definition finish n (a :: q :: ts)) =
      .error (.malformedStatement (current finish rest) (.semicolon a.text)) := by
  obtain ⟨hlt, h⟩ := eq_ok_of_outcome h
  simp only [phraseReader] at h
  simp [definition, take?_of_kind ha, take?_of_kind hq, h, take?_eq_none hs, outcome]

theorem definition_of_ok {a q s : Token} {ts rest : List Token} {e : Expr}
    (ha : a.kind = .ident) (hq : q.kind = .equal)
    (h : read finish n .expression ts = .ok (e, s :: rest))
    (hs : s.kind = .semicolon) :
    outcome (definition finish n (a :: q :: ts)) = .ok (⟨a.text, e⟩, rest) := by
  obtain ⟨hlt, h⟩ := eq_ok_of_outcome h
  simp only [phraseReader] at h
  simp [definition, take?_of_kind ha, take?_of_kind hq, h, take?_of_kind hs, outcome]

theorem definitions_of_kind_ne {ts : List Token} (h : (current finish ts).kind ≠ .define) :
    definitions finish ts = ([], .ok ts) := by
  cases ts with
  | nil => rw [definitions]
  | cons t ts =>
      rw [current_cons] at h
      rw [definitions, if_neg h]

theorem readProgram_of_error {ts : List Token} {x : ParseError}
    (hne : (current finish ts).kind ≠ .define)
    (h : read finish groupLimit .expression ts = .error x) :
    readProgram finish ts = .error x := by
  have h : expression finish groupLimit ts = .error x := eq_error_of_outcome h
  simp [readProgram, definitions_of_kind_ne hne, result, h]

theorem readProgram_of_ok {ts rest : List Token} {e : Expr}
    (hne : (current finish ts).kind ≠ .define)
    (h : read finish groupLimit .expression ts = .ok (e, rest))
    (heof : (current finish rest).kind = .eof) : readProgram finish ts = .ok ⟨[], e⟩ := by
  obtain ⟨hlt, h⟩ := eq_ok_of_outcome h
  simp only [phraseReader] at h
  simp [readProgram, definitions_of_kind_ne hne, result, h, heof]

theorem readProgram_of_leftover {ts rest : List Token} {e : Expr}
    (hne : (current finish ts).kind ≠ .define)
    (h : read finish groupLimit .expression ts = .ok (e, rest))
    (heof : (current finish rest).kind ≠ .eof) :
    readProgram finish ts = .error (.unexpectedToken (current finish rest) .afterExpression) := by
  obtain ⟨hlt, h⟩ := eq_ok_of_outcome h
  simp only [phraseReader] at h
  simp [readProgram, definitions_of_kind_ne hne, result, h, heof]

theorem readProgram_of_definition_error {k : Token} {ts : List Token} {x : ParseError}
    (hk : k.kind = .define) (h : outcome (definition finish groupLimit ts) = .error x) :
    readProgram finish (k :: ts) = .error x := by
  rw [readProgram, definitions, if_pos hk, eq_error_of_outcome h]

/-- A program that begins with a definition goes on with the program behind it. -/
theorem readProgram_of_definition {k : Token} {ts rest : List Token} {d : Definition}
    (hk : k.kind = .define) (h : outcome (definition finish groupLimit ts) = .ok (d, rest)) :
    readProgram finish (k :: ts) =
      match readProgram finish rest with
      | .error x => .error x
      | .ok p => .ok ⟨d :: p.definitions, p.result⟩ := by
  obtain ⟨hlt, h⟩ := eq_ok_of_outcome h
  have hmore : definitions finish (k :: ts) =
      (d :: (definitions finish rest).1, (definitions finish rest).2) := by
    rw [definitions, if_pos hk, h]
  simp only [readProgram, hmore]
  cases (definitions finish rest).2 with
  | error x => rfl
  | ok rest => cases hr : result finish rest <;> simp [hr]

/-- What the reader of definitions may return, given the tokens from `def` on. -/
def ExplainsDefinition (finish : Int) (ts : List Token) :
    Except ParseError (Definition × List Token) → Prop
  | .ok (d, rest) =>
      ∃ w, ts = w ++ rest ∧ IsDefinition w d ∧ d.value.groupDepth ≤ groupLimit
  | .error x => ∃ u rest, ts = u ++ rest ∧ RejectsDefinition u (current finish rest) x

/-- The value of a definition and the semicolon behind it. -/
theorem explains_definition_value {k a q : Token} (hk : k.kind = .define)
    (ha : a.kind = .ident) (hq : q.kind = .equal) (ts : List Token) :
    ExplainsDefinition finish (k :: a :: q :: ts)
      (outcome (definition finish groupLimit (a :: q :: ts))) := by
  have hvalue := explains_read finish groupLimit ts
  cases hr : read finish groupLimit .expression ts with
  | error x =>
      rw [hr] at hvalue
      obtain ⟨u, rest, rfl, hx⟩ := hvalue
      rw [definition_of_error ha hq hr]
      exact ⟨k :: a :: q :: u, rest, rfl, .value hk ha hq hx⟩
  | ok p =>
      obtain ⟨e, rest⟩ := p
      rw [hr] at hvalue
      obtain ⟨w, rfl, hw, hd, hend⟩ := hvalue
      by_cases hclose : (current finish rest).kind = .semicolon
      · obtain ⟨s, rest, rfl, hs⟩ := exists_cons_of_kind hclose (by decide)
        rw [definition_of_ok ha hq hr hs]
        exact ⟨k :: a :: q :: (w ++ [s]), by simp, .intro hk ha hq hw hs, hd⟩
      · rw [definition_no_semicolon ha hq hr hclose]
        exact ⟨k :: a :: q :: w, rest, rfl, .semicolon hk ha hq hw hd hend hclose⟩

theorem explains_definition (finish : Int) {k : Token} (hk : k.kind = .define) (ts : List Token) :
    ExplainsDefinition finish (k :: ts) (outcome (definition finish groupLimit ts)) := by
  by_cases hname : (current finish ts).kind = .ident
  · obtain ⟨a, ts, rfl, ha⟩ := exists_cons_of_kind hname (by decide)
    by_cases hequal : (current finish ts).kind = .equal
    · obtain ⟨q, ts, rfl, hq⟩ := exists_cons_of_kind hequal (by decide)
      exact explains_definition_value hk ha hq ts
    · rw [definition_no_equal ha hequal]
      exact ⟨[k, a], ts, rfl, .equal hk ha hequal⟩
  · rw [definition_no_name hname]
    exact ⟨[k], ts, rfl, .name hk hname⟩

/-- What the reader of programs may return. -/
def ExplainsProgram (finish : Int) (ts : List Token) : Except ParseError Program → Prop
  | .ok p =>
      ∃ w rest, ts = w ++ rest ∧ IsProgram w p ∧ p.groupDepth ≤ groupLimit ∧
        (current finish rest).kind = .eof
  | .error x => ∃ u rest, ts = u ++ rest ∧ RejectsProgram u (current finish rest) x

/-- The final expression of a program and the end of the input behind it. -/
theorem explains_result {ts : List Token} (hne : (current finish ts).kind ≠ .define) :
    ExplainsProgram finish ts (readProgram finish ts) := by
  have hresult := explains_read finish groupLimit ts
  cases hr : read finish groupLimit .expression ts with
  | error x =>
      rw [hr] at hresult
      obtain ⟨u, rest, rfl, hx⟩ := hresult
      rw [readProgram_of_error hne hr]
      refine ⟨u, rest, rfl, .result hx ?_⟩
      rintro rfl
      exact hne
  | ok p =>
      obtain ⟨e, rest⟩ := p
      rw [hr] at hresult
      obtain ⟨w, rfl, hw, hd, hend⟩ := hresult
      by_cases heof : (current finish rest).kind = .eof
      · rw [readProgram_of_ok hne hr heof]
        exact ⟨w, rest, rfl, .result hw, hd, heof⟩
      · rw [readProgram_of_leftover hne hr heof]
        exact ⟨w, rest, rfl, .leftover hw hd hend heof⟩

/-- Every result of reading a program has a derivation or a rejection behind it. -/
theorem explains_readProgram (finish : Int) (ts : List Token) :
    ExplainsProgram finish ts (readProgram finish ts) := by
  induction hlen : ts.length using Nat.strongRecOn generalizing ts with
  | ind k ih =>
    subst hlen
    by_cases hdefine : (current finish ts).kind = .define
    · obtain ⟨k, ts, rfl, hk⟩ := exists_cons_of_kind hdefine (by decide)
      have hfirst := explains_definition finish hk ts
      cases hr : outcome (definition finish groupLimit ts) with
      | error x =>
          rw [hr] at hfirst
          obtain ⟨u, rest, hu, hx⟩ := hfirst
          rw [readProgram_of_definition_error hk hr]
          exact ⟨u, rest, hu, .definition hx⟩
      | ok p =>
          obtain ⟨d, rest⟩ := p
          rw [hr] at hfirst
          obtain ⟨v, hv, hdef, hdepth⟩ := hfirst
          have hlt : rest.length < (k :: ts).length := by
            obtain ⟨hlt, -⟩ := eq_ok_of_outcome hr
            exact Nat.lt_succ_of_lt hlt
          have hmore := ih rest.length hlt rest rfl
          rw [readProgram_of_definition hk hr]
          cases hp : readProgram finish rest with
          | error x =>
              rw [hp] at hmore
              obtain ⟨u, rest, rfl, hx⟩ := hmore
              exact ⟨v ++ u, rest, by rw [hv, List.append_assoc], .later hdef hdepth hx⟩
          | ok p =>
              rw [hp] at hmore
              obtain ⟨w, rest, rfl, hw, hd, heof⟩ := hmore
              refine ⟨v ++ w, rest, by rw [hv, List.append_assoc], .definition hdef hw, ?_, heof⟩
              exact Nat.max_le.mpr ⟨hdepth, hd⟩
    · exact explains_result hdefine

theorem current_append_kind_ne_define (finish : Int) {w : List Token} (ts : List Token)
    (hne : w ≠ []) (h : ∀ t ∈ w, InExpression t.kind) :
    (current finish (w ++ ts)).kind ≠ .define := by
  cases w with
  | nil => exact absurd rfl hne
  | cons t w => exact (h t List.mem_cons_self).1

/-- A complete definition is followed by the program behind it. -/
theorem readProgram_definition_append {v : List Token} {d : Definition} (h : IsDefinition v d)
    (hd : d.value.groupDepth ≤ groupLimit) (ts : List Token) :
    readProgram finish (v ++ ts) =
      match readProgram finish ts with
      | .error x => .error x
      | .ok p => .ok ⟨d :: p.definitions, p.result⟩ := by
  obtain @⟨k, a, q, s, w, e, hk, ha, hq, hw, hs⟩ := h
  have hend : Ends .expression (current finish (s :: ts)).kind :=
    ends_of_closing (by simp [hs]) _
  have hvalue := definition_of_ok ha hq (read_eq_ok hw hd hend) hs
  have happend : k :: a :: q :: (w ++ [s]) ++ ts = k :: (a :: q :: (w ++ s :: ts)) := by simp
  rw [happend]
  exact readProgram_of_definition hk hvalue

/-- A program within the group limit is read in full. -/
theorem readProgram_eq_ok {w ts : List Token} {p : Program} (h : IsProgram w p)
    (hd : p.groupDepth ≤ groupLimit) (heof : (current finish ts).kind = .eof) :
    readProgram finish (w ++ ts) = .ok p := by
  induction h with
  | result hw =>
      have hend : Ends .expression (current finish ts).kind :=
        ends_of_closing (by simp [heof]) _
      have hne := current_append_kind_ne_define finish ts hw.ne_nil hw.inExpression
      exact readProgram_of_ok hne (read_eq_ok hw hd hend) heof
  | definition hv _ ih =>
      obtain ⟨hvalue, hmore⟩ := Nat.max_le.mp hd
      rw [List.append_assoc, readProgram_definition_append hv hvalue, ih hmore]

/-- The error with which a token is rejected is the one that is reported. -/
theorem readProgram_eq_error {u ts : List Token} {x : ParseError}
    (h : RejectsProgram u (current finish ts) x) : readProgram finish (u ++ ts) = .error x := by
  generalize ht : current finish ts = t at h
  induction h with
  | definition h =>
      subst ht
      cases h with
      | name hk hname => exact readProgram_of_definition_error hk (definition_no_name hname)
      | equal hk ha hequal =>
          exact readProgram_of_definition_error hk (definition_no_equal ha hequal)
      | value hk ha hq h =>
          exact readProgram_of_definition_error hk (definition_of_error ha hq (read_eq_error h))
      | semicolon hk ha hq hw hd hend hs =>
          exact readProgram_of_definition_error hk
            (definition_no_semicolon ha hq (read_eq_ok hw hd hend) hs)
  | later hv hd _ ih =>
      rw [List.append_assoc, readProgram_definition_append hv hd, ih ht]
  | @result t u x h hdefine =>
      subst ht
      have hne : (current finish (u ++ ts)).kind ≠ .define := by
        by_cases hu : u = []
        · subst hu
          exact hdefine rfl
        · exact current_append_kind_ne_define finish ts hu h.inExpression
      exact readProgram_of_error hne (read_eq_error h)
  | leftover hw hd hend heof =>
      subst ht
      have hne := current_append_kind_ne_define finish ts hw.ne_nil hw.inExpression
      exact readProgram_of_leftover hne (read_eq_ok hw hd hend) heof

end LineCalc.Parser
