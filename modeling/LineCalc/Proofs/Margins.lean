import LineCalc.Proofs.Cutting
import LineCalc.Proofs.ErrorMarkers
import LineCalc.Proofs.Offsets

/-!
# Blanks around a line

Blanks around a line change nothing about it except offsets. What the line stands
for and what it evaluates to stay as they are, and an error of reading it stays at
the same token or character, which has moved to the right by the blanks in front.
The end of the line is the exception, since it moves behind the blanks at the end
as well. A line and what is left of it when the blanks around it are removed
therefore have the same outcome up to offsets.
-/

namespace LineCalc

open Text Lexer Grammar LineCalc.Parser

variable {rule : WordRule}

namespace Text

/-- Blanks in front of a line and behind it. -/
structure Margins where
  before : String
  after : String
  before_blank : ∀ c ∈ before.toList, isBlank c = true
  after_blank : ∀ c ∈ after.toList, isBlank c = true

namespace Margins

/-- A line with blanks around it. -/
def around (m : Margins) (line : String) : String := m.before ++ line ++ m.after

/-- Where an offset in a line of the given length is found when there are blanks
around the line. The end of the line is behind the blanks at the end. -/
def place (m : Margins) (length : Nat) (pos : Int) : Int :=
  if pos < length then pos + m.before.length
  else m.before.length + length + m.after.length

theorem toList_around (m : Margins) (line : String) :
    (m.around line).toList = m.before.toList ++ (line.toList ++ m.after.toList) := by
  simp [around]

theorem length_around (m : Margins) (line : String) :
    (m.around line).length = m.before.length + line.length + m.after.length := by
  simp [around]

theorem place_of_lt (m : Margins) {length : Nat} {pos : Int} (h : pos < length) :
    m.place length pos = pos + m.before.length :=
  if_pos h

theorem separated_after (m : Margins) : Separated m.after.toList := by
  rw [← List.append_nil m.after.toList]
  exact separated_gap m.after_blank (by simp [Separated])

theorem place_self (m : Margins) (length : Nat) :
    m.place length length = (m.before.length + length + m.after.length : Nat) := by
  simp [place]

end Margins

/-- What is removed around a line are blanks. -/
theorem exists_margins (line : String) : ∃ m : Margins, m.around (strip line) = line := by
  let front := line.toList.takeWhile isBlank
  let rest := line.toList.dropWhile isBlank
  let back := (rest.reverse.takeWhile isBlank).reverse
  have hblank (cs : List Char) : ∀ c ∈ cs.takeWhile isBlank, isBlank c = true :=
    List.all_eq_true.mp List.all_takeWhile
  have hrest : trim isBlank line.toList ++ back = rest := by
    rw [trim, ← List.reverse_append, List.takeWhile_append_dropWhile, List.reverse_reverse]
  refine ⟨⟨String.ofList front, String.ofList back, ?_, ?_⟩, ?_⟩
  · rw [String.toList_ofList]
    exact hblank _
  · rw [String.toList_ofList]
    intro c hc
    exact hblank _ c (List.mem_reverse.mp hc)
  · apply String.toList_injective
    simp only [Margins.toList_around, toList_strip, String.toList_ofList]
    calc
      front ++ (trim isBlank line.toList ++ back) = front ++ rest := by rw [hrest]
      _ = line.toList := List.takeWhile_append_dropWhile

end Text

/-- An error at another offset, whose open group has moved to the right. -/
def Error.moved (offset : Nat) (pos : Int) : Error → Error
  | lex (.unrecognized text _) => lex (.unrecognized text pos)
  | parse (.unexpectedEnd _) => parse (.unexpectedEnd pos)
  | parse (.unexpectedToken t place) => parse (.unexpectedToken { t with pos := pos } place)
  | parse (.malformedStatement t expected) =>
      parse (.malformedStatement { t with pos := pos } expected)
  | parse (.unclosedGroup t openPos) =>
      parse (.unclosedGroup { t with pos := pos } (openPos + offset))
  | parse (.nestingTooDeep t limit) => parse (.nestingTooDeep { t with pos := pos } limit)
  | parse (.described message _) => parse (.described message pos)
  | error => error

/-- An error of reading a line moves with its token, and with the parenthesis of an
open group. -/
theorem Error.relocate_eq_moved {x : ParseError} {offset : Nat} {f : Int → Int}
    (hopen : ∀ t openPos, x = .unclosedGroup t openPos → f openPos = openPos + offset) :
    Error.parse (x.relocate f) = (Error.parse x).moved offset (f x.pos) := by
  cases x with
  | unclosedGroup t openPos =>
      simp only [ParseError.relocate, moved, hopen t openPos rfl]
      rfl
  | _ => rfl

namespace Line

variable {source : String} {w : List Token}

theorem splits_around (m : Margins) (h : Splits rule 0 source.toList w) :
    Splits rule 0 (m.around source).toList (w.map (Token.shift m.before.length)) := by
  have hshift := h.shift m.before.length
  have hafter : Splits rule (0 + m.before.length + source.toList.length) m.after.toList [] := by
    rw [← List.append_nil m.after.toList]
    exact .gap m.after_blank .nil
  have htext := hshift.append m.separated_after hafter
  rw [List.append_nil, ← String.length_toList] at htext
  rw [Margins.toList_around]
  exact .gap m.before_blank htext

/-- The tokens of a line stand before its end, which is where its end token stands. -/
theorem map_shift_append_end (m : Margins) (h : Splits rule 0 source.toList w) :
    w.map (Token.shift m.before.length) ++ [Token.endAt (m.around source).length] =
      (w ++ [Token.endAt source.length]).map (Token.relocate (m.place source.length)) := by
  have htokens : w.map (Token.shift m.before.length) =
      w.map (Token.relocate (m.place source.length)) := by
    apply List.map_congr_left
    intro t ht
    obtain ⟨a, b, hsource, hpos, htext⟩ := h.exists_append t ht
    have hlt : t.pos < source.length := by
      rw [← String.length_toList, hsource, List.length_append, List.length_append,
        String.length_toList]
      omega
    rw [Token.shift, Token.relocate, m.place_of_lt hlt]
  have hend : Token.endAt (m.around source).length =
      (Token.endAt source.length).relocate (m.place source.length) := by
    rw [Token.endAt, Token.endAt, Token.relocate, m.place_self, m.length_around]
  rw [htokens, hend, List.map_append, List.map_singleton]

/-- A line is the same program with blanks around it. -/
theorem program_around_of_ok (m : Margins) {p : Program} (h : program rule source = .ok p) :
    program rule (m.around source) = .ok p := by
  obtain ⟨w, hw, hp, hd⟩ := program_eq_ok_iff.mp h
  exact program_eq_ok_iff.mpr
    ⟨_, splits_around m hw, hp.relocate (· + m.before.length), hd⟩

/-- A line that is not split fails at the same character with blanks around it. -/
theorem program_around_of_lex (m : Margins) {x : LexError}
    (h : Token.scan rule source = .error x) :
    program rule (m.around source) =
      .error (.ofError (m.around source) (.lex (x.shift m.before.length))) := by
  have hscan : Token.scan rule (m.around source) = .error (x.shift m.before.length) := by
    rw [Token.scan, Margins.toList_around, scan_gap rule 0 m.before_blank, scan_add,
      scan_append_of_error h m.separated_after, String.length_toList]
  simp only [program, tokens, hscan]

/-- A line whose tokens are rejected fails at the same token with blanks around it. -/
theorem program_around_of_parse (m : Margins) {x : ParseError}
    (hw : Splits rule 0 source.toList w)
    (h : Program.ofTokens (w ++ [Token.endAt source.length]) = .error x) :
    program rule (m.around source) =
      .error (.ofError (m.around source) (.parse (x.relocate (m.place source.length)))) := by
  obtain ⟨u, t, v, htokens, hx⟩ := exists_rejected h
  have hread : Program.ofTokens
      ((u ++ t :: v).map (Token.relocate (m.place source.length))) =
        .error (x.relocate (m.place source.length)) := by
    rw [List.map_append, List.map_cons]
    exact readProgram_eq_error (hx.relocate _)
  rw [program, tokens_of_splits (splits_around m hw), map_shift_append_end m hw, htokens]
  simp only [hread]

/-- A line that is not read fails with the same error with blanks around it, which
has moved with what it is about. -/
theorem program_around_of_error (m : Margins) {d : Diagnostic}
    (h : program rule source = .error d) :
    ∃ pos : Nat, d.error.pos? = some (pos : Int) ∧ pos ≤ source.length ∧
      program rule (m.around source) = .error (.ofError (m.around source)
        (d.error.moved m.before.length (m.place source.length pos))) := by
  obtain ⟨pos, width, hspans, -⟩ := markedIn_of_unread (unread_of_program h)
  refine ⟨pos, hspans.pos_eq, hspans.pos_le, ?_⟩
  cases hscan : Token.scan rule source with
  | error x =>
      simp only [program, tokens, hscan, Except.error.injEq] at h
      subst h
      obtain ⟨-, u, c, v, hsource, rfl⟩ := exists_of_scan_error hscan
      have hpos : ((0 + u.length : Nat) : Int) = pos := Option.some.inj hspans.pos_eq
      have hlt : (pos : Int) < source.length := by
        rw [← hpos, ← String.length_toList, hsource, List.length_append, List.length_cons]
        omega
      rw [program_around_of_lex m hscan, m.place_of_lt hlt, ← hpos]
      rfl
  | ok ts =>
      obtain ⟨w, hw⟩ := Splits.exists_of_scan hscan
      rw [program, tokens_of_splits hw] at h
      cases hread : Program.ofTokens (w ++ [Token.endAt source.length]) with
      | ok p => simp [hread] at h
      | error x =>
          simp only [hread, Except.error.injEq] at h
          subst h
          have hpos : x.pos = pos := Option.some.inj hspans.pos_eq
          have hopen : ∀ t openPos, x = .unclosedGroup t openPos →
              m.place source.length openPos = openPos + m.before.length := by
            rintro t openPos rfl
            obtain ⟨n, rfl, hn, -⟩ := hspans.opening t openPos rfl
            have hle := hspans.pos_le
            exact m.place_of_lt (by omega)
          rw [program_around_of_parse m hw hread, Error.relocate_eq_moved hopen, hpos,
            Diagnostic.ofError_error]

theorem ne_eval_of_unread {d : Diagnostic} (h : Unread rule source d) (x : EvalError) :
    d.error ≠ .eval x := by
  intro hx
  cases h with
  | lex _ _ => cases hx
  | parse _ _ _ => cases hx

/-- What blanks around a line do to its outcome. A value and an error of evaluation
stay as they are. Any other error is shown in the line with its blanks, at the place
where its offset is found there. -/
structure SameAround (settings : Settings) (m : Margins) (source : String) : Prop where
  value_iff : ∀ x, evaluate settings (m.around source) = .ok x ↔ evaluate settings source = .ok x
  evalError_iff : ∀ x, evaluate settings (m.around source) = .error (.unplaced (.eval x)) ↔
    evaluate settings source = .error (.unplaced (.eval x))
  moved : ∀ d, evaluate settings source = .error d → (∀ x, d.error ≠ .eval x) →
    ∃ pos : Nat, d.error.pos? = some (pos : Int) ∧ pos ≤ source.length ∧
      evaluate settings (m.around source) = .error (.ofError (m.around source)
        (d.error.moved m.before.length (m.place source.length pos)))

theorem sameAround_of_ok {settings : Settings} {p : Program} (m : Margins)
    (hp : program settings.wordRule source = .ok p) : SameAround settings m source := by
  have hsame : evaluate settings (m.around source) = evaluate settings source := by
    simp only [evaluate, hp, program_around_of_ok m hp]
  refine ⟨fun x => by rw [hsame], fun x => by rw [hsame], ?_⟩
  intro d hd hother
  simp only [evaluate, hp] at hd
  split at hd
  · cases hd
    exact absurd rfl (hother _)
  · cases hd

theorem sameAround_of_error {settings : Settings} {d : Diagnostic} (m : Margins)
    (hp : program settings.wordRule source = .error d) : SameAround settings m source := by
  obtain ⟨pos, hpos, hle, haround⟩ := program_around_of_error m hp
  have hsource : evaluate settings source = .error d := by simp only [evaluate, hp]
  have hmoved : evaluate settings (m.around source) = .error (.ofError (m.around source)
      (d.error.moved m.before.length (m.place source.length pos))) := by
    simp only [evaluate, haround]
  have hread := ne_eval_of_unread (unread_of_program hp)
  have hreadAround := ne_eval_of_unread (unread_of_program haround)
  refine ⟨?_, ?_, ?_⟩
  · intro x
    simp only [hsource, hmoved, reduceCtorEq]
  · intro x
    rw [hsource, hmoved]
    refine iff_of_false ?_ ?_
    · intro h
      exact hreadAround x (congrArg Diagnostic.error (Except.error.inj h))
    · intro h
      exact hread x (congrArg Diagnostic.error (Except.error.inj h))
  · intro e he _
    obtain rfl := Except.error.inj (hsource.symm.trans he)
    exact ⟨pos, hpos, hle, hmoved⟩

/-- Blanks around a line only move its errors; and every line has blanks around what
is left of it when they are removed. -/
theorem evaluate_sameAround (settings : Settings) :
    (∀ (m : Margins) (source : String), SameAround settings m source) ∧
    ∀ line, ∃ m : Margins, m.around (strip line) = line := by
  refine ⟨?_, exists_margins⟩
  intro m source
  cases hp : program settings.wordRule source with
  | ok p => exact sameAround_of_ok m hp
  | error d => exact sameAround_of_error m hp

/-- In ` 2 * (1  ` the error stands behind the blanks at the end, and the parenthesis
that is open has moved by the one blank in front. -/
theorem evaluate_sameAround_unclosed :
    evaluate .standard "2 * (1" =
      .error (.ofError "2 * (1" (.parse (.unclosedGroup ⟨.eof, "", 6⟩ 4))) ∧
    evaluate .standard " 2 * (1  " =
      .error (.ofError " 2 * (1  " (.parse (.unclosedGroup ⟨.eof, "", 9⟩ 5))) := by
  have hscan : Token.scan .any "2 * (1" =
      .ok [⟨.number, "2", 0⟩, ⟨.star, "*", 2⟩, ⟨.lparen, "(", 4⟩, ⟨.number, "1", 5⟩,
        ⟨.eof, "", 6⟩] := by decide +kernel
  have hparse : Program.ofTokens
      [⟨.number, "2", 0⟩, ⟨.star, "*", 2⟩, ⟨.lparen, "(", 4⟩, ⟨.number, "1", 5⟩, ⟨.eof, "", 6⟩] =
      .error (.unclosedGroup ⟨.eof, "", 6⟩ 4) := by cbv
  have heval : evaluate .standard "2 * (1" =
      .error (.ofError "2 * (1" (.parse (.unclosedGroup ⟨.eof, "", 6⟩ 4))) := by
    have hrule : Settings.standard.wordRule = .any := rfl
    simp only [evaluate, program, tokens, hrule, hscan, hparse]
  have hsame := (evaluate_sameAround .standard).1
    ⟨" ", "  ", List.all_eq_true.mp rfl, List.all_eq_true.mp rfl⟩ "2 * (1"
  have hread : ∀ x, (Diagnostic.ofError "2 * (1"
      (.parse (.unclosedGroup ⟨.eof, "", 6⟩ 4))).error ≠ .eval x := by
    intro x hx
    cases hx
  obtain ⟨pos, hpos, -, hmoved⟩ := hsame.moved _ heval hread
  cases hpos
  exact ⟨heval, hmoved⟩

end Line

end LineCalc
