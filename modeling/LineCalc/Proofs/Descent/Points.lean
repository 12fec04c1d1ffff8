import Mathlib.Logic.Relation
import LineCalc.Proofs.Rejection

/-!
# The points of a call

A call of a reader is taken apart into the points it goes through. A point has a
cursor into the tokens, a counter of the groups that are open, what is done next,
and what waits for the outcome. The counter is raised behind an opening parenthesis
and lowered when the expression inside is read, before the closing parenthesis is
looked for. The counter alone decides whether a group may be entered.

What one step does to the cursor and to the counter is said once, and from it follows
what holds at every point that is reached: the counter is one more than at the start
for each group whose inner expression is being read, it stays within the group limit,
and no end token is passed.

## Implementation notes

An error ends a run at the point where it arises and is not a point of its own, so
what holds at every point holds where a call fails as well.
-/

namespace LineCalc.Parser.Descent

open Grammar

/-- What waits for an expression that is being read. -/
inductive Frame where
  /-- A chain of a level, for its first operand. -/
  | first (level : Level)
  /-- A chain of a level, for the operand on the right of an operator. -/
  | right (level : Level) (op : Operator) (left : Expr)
  /-- A group, for the expression inside. -/
  | group (opening : Token)
  /-- A definition, for its value. -/
  | value (name : Token)

/-- What is done next. -/
inductive Control where
  | read (phrase : Phrase)
  /-- Look for an operator of the level behind an operand. -/
  | operators (level : Level) (left : Expr)
  /-- Look for the parenthesis that closes a group. -/
  | close (opening : Token) (inner : Expr)
  /-- Pass the first word of a definition. -/
  | define
  | name
  | equal (name : Token)
  | value (name : Token)
  | semicolon (name : Token) (value : Expr)
  /-- Return an expression to what waits for it. -/
  | give (e : Expr)
  | defined (d : Definition)

/-- A point of a call. The frame that waits for the next outcome comes first. -/
structure Point where
  pos : Nat
  depth : Nat
  control : Control
  pending : List Frame

/-- The frame stands for a group whose inner expression is being read. -/
def Frame.isGroup : Frame → Bool
  | group _ => true
  | _ => false

theorem countP_group (o : Token) (pending : List Frame) :
    (Frame.group o :: pending).countP Frame.isGroup = pending.countP Frame.isGroup + 1 :=
  List.countP_cons_of_pos rfl

/-- The number of groups whose inner expression is being read. -/
def Point.groups (p : Point) : Nat := p.pending.countP Frame.isGroup

/-- The number of parentheses that are still to be closed. Where one is looked for, its
group does not count any more, but the parenthesis does. -/
def Point.unclosed (p : Point) : Nat :=
  match p.control with
  | .close _ _ => p.groups + 1
  | _ => p.groups

section Steps

variable (tokens : List Token)

/-- The token at the cursor; past the last one it is the end of the input. -/
def next (pos : Nat) : Token := current (finishOf tokens) (tokens.drop pos)

/-- The cursor behind the next token. It does not move past the last token. -/
def advance (pos : Nat) : Nat := if pos < tokens.length then pos + 1 else pos

/-- Pass a token of the given kind, or fail at the token that stands there. -/
def expect (p : Point) (kind : TokenKind) (go : Token → Control) (fail : Token → ParseError) :
    Except ParseError (Option Point) :=
  let t := next tokens p.pos
  if t.kind = kind then .ok (some { p with pos := advance tokens p.pos, control := go t })
  else .error (fail t)

/-- Read an operand, or enter the group that begins with it. -/
def enter (p : Point) : Except ParseError (Option Point) :=
  let t := next tokens p.pos
  let after := advance tokens p.pos
  match t.kind with
  | .eof => .error (.unexpectedEnd t.pos)
  | .number => .ok (some { p with pos := after, control := .give (.literal t.text) })
  | .ident => .ok (some { p with pos := after, control := .give (.reference t.text) })
  | .lparen =>
      if groupLimit ≤ p.depth then .error (.nestingTooDeep t groupLimit)
      else .ok (some ⟨after, p.depth + 1, .read .expression, .group t :: p.pending⟩)
  | _ => .error (.unexpectedToken t .operand)

/-- Hand an expression to the frame that waits for it. -/
def hand (p : Point) (e : Expr) : Option Point :=
  match p.pending with
  | [] => none
  | .first l :: rest => some { p with control := .operators l e, pending := rest }
  | .right l op left :: rest =>
      some { p with control := .operators l (.binary op left e), pending := rest }
  | .group o :: rest => some ⟨p.pos, p.depth - 1, .close o e, rest⟩
  | .value a :: rest => some { p with control := .semicolon a e, pending := rest }

/-- The point that comes next, no point where the call is over, or its error. -/
def step (p : Point) : Except ParseError (Option Point) :=
  match p.control with
  | .read .primary => enter tokens p
  | .read (.level l) =>
      .ok (some { p with control := .read l.operand, pending := .first l :: p.pending })
  | .operators l left =>
      match l.operator? (next tokens p.pos).kind with
      | none => .ok (some { p with control := .give left })
      | some op =>
          .ok (some ⟨advance tokens p.pos, p.depth, .read l.operand,
            .right l op left :: p.pending⟩)
  | .close o e =>
      expect tokens p .rparen (fun _ => .give (.group e)) fun t => .unclosedGroup t o.pos
  | .define => .ok (some { p with pos := advance tokens p.pos, control := .name })
  | .name => expect tokens p .ident .equal fun t => .malformedStatement t .name
  | .equal a =>
      expect tokens p .equal (fun _ => .value a) fun t => .malformedStatement t (.equal a.text)
  | .value a =>
      .ok (some { p with control := .read .expression, pending := .value a :: p.pending })
  | .semicolon a e =>
      expect tokens p .semicolon (fun _ => .defined ⟨a.text, e⟩)
        fun t => .malformedStatement t (.semicolon a.text)
  | .give e => .ok (hand p e)
  | .defined _ => .ok none

/-- One point comes right after another. -/
abbrev Step (p q : Point) : Prop := step tokens p = .ok (some q)

/-- One point comes after another, or is the same. -/
abbrev Reaches : Point → Point → Prop := Relation.ReflTransGen (Step tokens)

end Steps

variable {tokens : List Token} {pos depth : Nat} {pending : List Frame}

theorem next_eq {rest : List Token} (h : tokens.drop pos = rest) :
    next tokens pos = current (finishOf tokens) rest := by
  rw [next, h]

theorem next_of_drop {t : Token} {rest : List Token} (h : tokens.drop pos = t :: rest) :
    next tokens pos = t := by
  rw [next_eq h, current_cons]

theorem lt_length_of_drop {t : Token} {rest : List Token} (h : tokens.drop pos = t :: rest) :
    pos < tokens.length := by
  apply Nat.lt_of_not_le
  intro hle
  rw [List.drop_eq_nil_iff.mpr hle] at h
  cases h

theorem advance_of_drop {t : Token} {rest : List Token} (h : tokens.drop pos = t :: rest) :
    advance tokens pos = pos + 1 := by
  rw [advance, if_pos (lt_length_of_drop h)]

/-- A token other than the end stands at the cursor, which moves behind it. -/
theorem getElem?_of_next (h : (next tokens pos).kind ≠ .eof) :
    tokens[pos]? = some (next tokens pos) ∧ advance tokens pos = pos + 1 := by
  cases hts : tokens.drop pos with
  | nil =>
      rw [next, hts] at h
      exact absurd rfl h
  | cons t rest =>
      refine ⟨?_, advance_of_drop hts⟩
      rw [next_of_drop hts, ← List.head?_drop, hts, List.head?_cons]

theorem extract_succ {i : Nat} {t : Token} (hle : pos ≤ i) (ht : tokens[i]? = some t) :
    tokens.extract pos (i + 1) = tokens.extract pos i ++ [t] := by
  have hsub : i + 1 - pos = i - pos + 1 := by omega
  have hadd : pos + (i - pos) = i := by omega
  rw [List.extract, hsub, List.take_add_one, List.getElem?_drop, hadd, ht]
  rfl

/-- A step leaves the cursor where it is, or moves it behind a token that is not an
end token and may open or close a group. -/
inductive Moves (tokens : List Token) (p q : Point) : Prop
  | stay (hpos : q.pos = p.pos) (hunclosed : q.unclosed = p.unclosed)
  | pass {t : Token} (ht : tokens[p.pos]? = some t) (hkind : t.kind ≠ .eof)
      (hpos : q.pos = p.pos + 1) (hunclosed : q.unclosed = openAfter p.unclosed t)

/-- A step keeps the counter, raises it for a group whose inner expression comes
next, or lowers it for one whose inner expression is read. -/
inductive Counts (p q : Point) : Prop
  | keep (hdepth : q.depth = p.depth) (hgroups : q.groups = p.groups)
  | enter (hlimit : p.depth < groupLimit) (hdepth : q.depth = p.depth + 1)
      (hgroups : q.groups = p.groups + 1)
  | leave (hdepth : q.depth = p.depth - 1) (hgroups : p.groups = q.groups + 1)

theorem Moves.ofNext {p q : Point} (hkind : (next tokens p.pos).kind ≠ .eof)
    (hpos : q.pos = advance tokens p.pos)
    (hunclosed : q.unclosed = openAfter p.unclosed (next tokens p.pos)) : Moves tokens p q := by
  obtain ⟨ht, hadvance⟩ := getElem?_of_next hkind
  exact .pass ht hkind (hpos.trans hadvance) hunclosed

/-- The cursor moves behind a token that neither opens nor closes a group. -/
theorem Moves.ofPlain {p q : Point} {kind : TokenKind} (h : (next tokens p.pos).kind = kind)
    (hkind : kind ∉ [.eof, .lparen, .rparen]) (hpos : q.pos = advance tokens p.pos)
    (hunclosed : q.unclosed = p.unclosed) : Moves tokens p q := by
  subst h
  simp only [List.mem_cons, List.not_mem_nil, or_false, not_or] at hkind
  obtain ⟨heof, hopen, hclose⟩ := hkind
  apply Moves.ofNext heof hpos
  simp only [hunclosed, openAfter]

theorem expect_cases {p q : Point} {kind : TokenKind} {go : Token → Control}
    {fail : Token → ParseError} (h : expect tokens p kind go fail = .ok (some q)) :
    (next tokens p.pos).kind = kind ∧
      q = { p with pos := advance tokens p.pos, control := go (next tokens p.pos) } := by
  by_cases hkind : (next tokens p.pos).kind = kind
  · rw [expect, if_pos hkind] at h
    cases h
    exact ⟨hkind, rfl⟩
  · rw [expect, if_neg hkind] at h
    cases h

/-- What reading an operand does: it passes a number or a name, or it enters a group
if the counter allows it. -/
theorem enter_cases {p q : Point} (h : enter tokens p = .ok (some q)) :
    (∃ e, ((next tokens p.pos).kind = .number ∨ (next tokens p.pos).kind = .ident) ∧
      q = { p with pos := advance tokens p.pos, control := .give e }) ∨
    ((next tokens p.pos).kind = .lparen ∧ p.depth < groupLimit ∧
      q = ⟨advance tokens p.pos, p.depth + 1, .read .expression,
        .group (next tokens p.pos) :: p.pending⟩) := by
  cases hkind : (next tokens p.pos).kind <;> simp only [enter, hkind] at h
  case number =>
    cases h
    exact .inl ⟨_, .inl rfl, rfl⟩
  case ident =>
    cases h
    exact .inl ⟨_, .inr rfl, rfl⟩
  case lparen =>
    split at h
    · cases h
    · cases h
      exact .inr ⟨rfl, Nat.lt_of_not_le ‹_›, rfl⟩
  all_goals cases h

/-- What a step can do, and that none leads to the beginning of a definition. -/
theorem step_cases {p q : Point} (h : Step tokens p q)
    (hdefine : p.control = .define → (next tokens p.pos).kind = .define) :
    Moves tokens p q ∧ Counts p q ∧ q.control ≠ .define := by
  obtain ⟨pos, depth, control, pending⟩ := p
  cases control <;> simp only [Step, step] at h
  case read phrase =>
    cases phrase with
    | level l =>
        cases h
        exact ⟨.stay rfl rfl, .keep rfl rfl, by simp⟩
    | primary =>
        obtain ⟨e, hkind, rfl⟩ | ⟨hkind, hlimit, rfl⟩ := enter_cases h
        · refine ⟨?_, .keep rfl rfl, by simp⟩
          rcases hkind with hkind | hkind
          · exact .ofPlain hkind (by decide) rfl rfl
          · exact .ofPlain hkind (by decide) rfl rfl
        · have hgroups := countP_group (next tokens pos) pending
          refine ⟨.ofNext (by simp [hkind]) rfl ?_, .enter hlimit rfl hgroups, by simp⟩
          simp only [openAfter, hkind]
          exact hgroups
  case operators l left =>
    split at h
    · cases h
      exact ⟨.stay rfl rfl, .keep rfl rfl, by simp⟩
    · have hsign := operator?_eq_some_iff.mp ‹_›
      cases h
      refine ⟨.ofNext hsign.inExpression.2.2.2 rfl ?_, .keep rfl rfl, by simp⟩
      rw [openAfter_sign hsign]
      rfl
  case close o e =>
    obtain ⟨hkind, rfl⟩ := expect_cases h
    refine ⟨.ofNext (by simp [hkind]) rfl ?_, .keep rfl rfl, by simp⟩
    simp only [openAfter, hkind]
    rfl
  case define =>
    cases h
    exact ⟨.ofPlain (hdefine rfl) (by decide) rfl rfl, .keep rfl rfl, by simp⟩
  case name =>
    obtain ⟨hkind, rfl⟩ := expect_cases h
    exact ⟨.ofPlain hkind (by decide) rfl rfl, .keep rfl rfl, by simp⟩
  case equal a =>
    obtain ⟨hkind, rfl⟩ := expect_cases h
    exact ⟨.ofPlain hkind (by decide) rfl rfl, .keep rfl rfl, by simp⟩
  case value a =>
    cases h
    exact ⟨.stay rfl rfl, .keep rfl rfl, by simp⟩
  case semicolon a e =>
    obtain ⟨hkind, rfl⟩ := expect_cases h
    exact ⟨.ofPlain hkind (by decide) rfl rfl, .keep rfl rfl, by simp⟩
  case give e =>
    cases pending with
    | nil => cases h
    | cons frame rest =>
        cases frame with
        | group o =>
            cases h
            have hgroups := countP_group o rest
            exact ⟨.stay rfl hgroups.symm, .leave rfl hgroups, by simp⟩
        | _ =>
            cases h
            exact ⟨.stay rfl rfl, .keep rfl rfl, by simp⟩
  case defined d => cases h

/-- From one cursor to another there stands a token at every place, and none is an end
token. -/
def Clear (tokens : List Token) (pos pos' : Nat) : Prop :=
  ∀ i, pos ≤ i → i < pos' → ∃ t, tokens[i]? = some t ∧ t.kind ≠ .eof

/-- What holds at a point of a call that is made at the cursor `pos` with the counter
at `depth`. -/
structure Sound (tokens : List Token) (pos depth : Nat) (p : Point) : Prop where
  /-- The counter counts the groups whose inner expression is being read. -/
  depth_eq : p.depth = depth + p.groups
  depth_le : p.depth ≤ groupLimit
  forward : pos ≤ p.pos
  clear : Clear tokens pos p.pos
  /-- The tokens that are passed leave as many parentheses open as are to be closed. -/
  unclosed_eq : openGroups (tokens.extract pos p.pos) = p.unclosed
  /-- A definition is entered only at its first word. -/
  enters : p.control = .define → (next tokens p.pos).kind = .define

theorem Sound.step {p q : Point} (hp : Sound tokens pos depth p) (h : Step tokens p q) :
    Sound tokens pos depth q := by
  obtain ⟨hmoves, hcounts, hcontrol⟩ := step_cases h hp.enters
  obtain ⟨heq, hle, hforward, hclear, hunclosed, -⟩ := hp
  have hcounter : q.depth = depth + q.groups ∧ q.depth ≤ groupLimit := by
    cases hcounts <;> omega
  cases hmoves with
  | stay hpos hsame =>
      refine ⟨hcounter.1, hcounter.2, ?_, ?_, ?_, fun hdefine => absurd hdefine hcontrol⟩
      · rwa [hpos]
      · rwa [hpos]
      · rw [hpos, hsame, hunclosed]
  | @pass t ht hkind hpos hopen =>
      refine ⟨hcounter.1, hcounter.2, by omega, ?_, ?_, fun hdefine => absurd hdefine hcontrol⟩
      · intro i hi hlt
        by_cases hold : i < p.pos
        · exact hclear i hi hold
        · have hlast : i = p.pos := by omega
          exact ⟨t, hlast ▸ ht, hkind⟩
      · rw [hpos, extract_succ hforward ht, hopen, ← hunclosed, openGroups, List.foldl_append]
        rfl

/-- What holds at one point of a call holds at every point behind it. -/
theorem Sound.reaches {p q : Point} (hp : Sound tokens pos depth p) (h : Reaches tokens p q) :
    Sound tokens pos depth q := by
  induction h with
  | refl => exact hp
  | tail _ hstep ih => exact ih.step hstep

end LineCalc.Parser.Descent
