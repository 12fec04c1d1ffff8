import LineCalc.Proofs.FailingLines

/-!
# Markers under the offending text

An error of reading a line stands at a token of the line, at its end, or at a
character that belongs to no token. The marker of the error covers exactly the
text of that token or that character, or the place behind the last character. In
the text of the error the line is shown above a row of carets, which therefore
stand under the text in question. An error of evaluation has no marker.
-/

namespace LineCalc

open Lexer Grammar LineCalc.Parser

variable {rule : WordRule}

namespace Text

/-- The part of a line from an offset on, with a given width. -/
def slice (line : String) (pos width : Nat) : String :=
  String.ofList ((line.toList.drop pos).take width)

theorem slice_of_append {line part : String} {a b : List Char}
    (h : line.toList = a ++ (part.toList ++ b)) : slice line a.length part.length = part := by
  rw [slice, h, List.drop_left, ← String.length_toList, List.take_left, String.ofList_toList]

/-- What stands behind the last line feed of a text. -/
def lastLine (text : String) : List Char :=
  (text.toList.reverse.takeWhile fun c => c ≠ '\n').reverse

theorem lastLine_append (above : String) {row : List Char} (h : '\n' ∉ row) :
    lastLine (above ++ "\n" ++ String.ofList row) = row := by
  have hrow : ∀ c ∈ row.reverse, decide (c ≠ '\n') = true := by
    intro c hc
    rw [decide_eq_true_eq]
    rintro rfl
    exact h (List.mem_reverse.mp hc)
  have htext : (above ++ "\n" ++ String.ofList row).toList.reverse =
      row.reverse ++ '\n' :: above.toList.reverse := by simp
  rw [lastLine, htext, (takeWhile_dropWhile_append hrow (by simp)).1, List.reverse_reverse]

end Text

open Text

namespace Lexer.Splits

variable {pos : Nat} {cs : List Char} {w : List Token}

/-- Every token has a text, which stands at the offset of the token. -/
theorem exists_append (h : Splits rule pos cs w) : ∀ t ∈ w, ∃ a b,
    cs = a ++ (t.text.toList ++ b) ∧ t.pos = (pos + a.length : Nat) ∧ 0 < t.text.length := by
  induction h with
  | nil => simp
  | @blank pos c cs w _ _ ih =>
      intro t ht
      obtain ⟨a, b, rfl, hpos, htext⟩ := ih t ht
      refine ⟨c :: a, b, rfl, ?_, htext⟩
      rw [hpos, List.length_cons, Nat.add_assoc, Nat.add_comm 1]
  | @token pos c tail rest kind w _ _ _ ih =>
      have htext : 0 < (String.ofList (c :: tail)).length := by
        rw [String.length_ofList, List.length_cons]
        exact Nat.succ_pos _
      refine List.forall_mem_cons.mpr ⟨⟨[], rest, by simp, by simp, htext⟩, ?_⟩
      intro t ht
      obtain ⟨a, b, rfl, hpos, htext⟩ := ih t ht
      refine ⟨c :: tail ++ a, b, by simp, ?_, htext⟩
      rw [hpos, List.length_append, Nat.add_assoc]

/-- The tokens of a text and its end stand in the order of their offsets. -/
theorem pairwise_pos_lt (h : Splits rule pos cs w) :
    (w ++ [Token.endAt (pos + cs.length : Nat)]).Pairwise fun s t => s.pos < t.pos := by
  induction h with
  | nil => simp
  | @blank pos c cs w _ _ ih =>
      rw [List.length_cons, Nat.add_comm cs.length, ← Nat.add_assoc]
      exact ih
  | @token pos c tail rest kind w _ _ h ih =>
      rw [← List.cons_append, List.length_append, ← Nat.add_assoc, List.cons_append,
        List.pairwise_cons]
      refine ⟨?_, ih⟩
      intro t ht
      rcases List.mem_append.mp ht with ht | ht
      · obtain ⟨a, b, -, hpos, -⟩ := h.exists_append t ht
        simp only [hpos, List.length_cons]
        omega
      · cases List.mem_singleton.mp ht
        simp only [Token.endAt, List.length_cons]
        omega

end Lexer.Splits

namespace Lexer

theorem IsLexeme.eq_lparen {text : List Char} (h : IsLexeme rule .lparen text) :
    text = ['('] := by
  obtain ⟨c, tail, rfl, -, hlexeme⟩ := h
  rcases lexeme?_cases hlexeme with ⟨-, hkind, -⟩ | ⟨hmark, rfl⟩ | ⟨-, -, -, -, hkind⟩
  · cases hkind
  · have hc : c = '(' := by simpa [marks] using hmark
    rw [hc]
  · unfold wordKind at hkind
    split at hkind <;> cases hkind

end Lexer

/-- An error names the rejected token, unless the input ends there. -/
theorem Grammar.Reports.token?_eq {u : List Token} {t : Token} {x : ParseError}
    (h : Reports u t x) (hkind : t.kind ≠ .eof) : x.token? = some t := by
  cases h with
  | finish heof => exact absurd heof hkind
  | _ => rfl

namespace Error

/-- The text an error is about: that of its token, or the character that belongs
to none. -/
def offending? : Error → Option String
  | lex (.unrecognized text _) => some text
  | error => error.token?.map Token.text

/-- The error stands at the end of the input. -/
def AtEnd (error : Error) : Prop :=
  (∃ pos, error = .parse (.unexpectedEnd pos)) ∨ ∃ t, error.token? = some t ∧ t.kind = .eof

/-- The error is about a span of the line: the offending text, or one column at
the end of the line. -/
structure Spans (error : Error) (line : String) (pos width : Nat) : Prop where
  pos_eq : error.pos? = some (pos : Int)
  pos_le : pos ≤ line.length
  atEnd_iff : pos = line.length ∧ width = 1 ↔ error.AtEnd
  text : ¬ error.AtEnd →
    pos + width ≤ line.length ∧ error.offending? = some (slice line pos width)
  /-- An unclosed group has its parenthesis further to the left. -/
  opening : ∀ t openPos, error = .parse (.unclosedGroup t openPos) →
    ∃ n : Nat, openPos = n ∧ n < pos ∧ line.toList[n]? = some '('

end Error

namespace Diagnostic

/-- The marker covers a span of the line, and the text ends with the line above a
row of carets under the span. -/
structure Underlines (d : Diagnostic) (line : String) (pos width : Nat) : Prop where
  marker_eq : d.marker = some ⟨line, pos + 1, width⟩
  shown : ∃ summary, d.text =
    summary ++ "\n" ++ Marker.margin ++ line ++ "\n" ++ String.ofList (lastLine d.text)
  carets : lastLine d.text =
    List.replicate 4 ' ' ++ (List.replicate pos ' ' ++ List.replicate width '^')

theorem carets_eq (line : String) (pos : Nat) {width : Nat} (h : 0 < width) :
    (Marker.mk line (pos + 1) width).carets = String.ofList
      (List.replicate 4 ' ' ++ (List.replicate pos ' ' ++ List.replicate width '^')) := by
  have hmargin : Marker.margin.length = 4 := by decide
  have hspaces : ((4 : Nat) + (pos + 1 : Int) - 1).toNat = 4 + pos := by omega
  have hcarets : (max 1 (width : Int)).toNat = width := by omega
  rw [Marker.carets, hmargin, hspaces, hcarets, ← List.append_assoc,
    List.replicate_append_replicate]

/-- An error with a marker is shown with the span of the marker underlined. -/
theorem underlines_of_marker {d : Diagnostic} {line : String} {pos width : Nat}
    (hwidth : 0 < width) (h : d.marker = some ⟨line, pos + 1, width⟩) :
    d.Underlines line pos width := by
  let row := List.replicate 4 ' ' ++ (List.replicate pos ' ' ++ List.replicate width '^')
  let summary := d.error.summary ++ "\ncol " ++ toString (pos + 1 : Int)
  have htext : d.text = summary ++ "\n" ++ Marker.margin ++ line ++ "\n" ++ String.ofList row := by
    simp only [text, h, Marker.text, carets_eq line pos hwidth, summary, row, String.append_assoc]
    rfl
  have hbreak : '\n' ∉ row := by simp [row]
  have hlast : lastLine d.text = row := by
    rw [htext]
    exact lastLine_append _ hbreak
  exact ⟨h, ⟨summary, by rw [hlast, htext]⟩, hlast⟩

/-- The error is about a span of the line, and the span is underlined. -/
def MarkedIn (d : Diagnostic) (line : String) : Prop :=
  ∃ pos width, d.error.Spans line pos width ∧ d.Underlines line pos width

/-- A parse error whose width is that of its span is marked once it is placed. -/
theorem markedIn_ofError {line : String} {x : ParseError} {pos span : Nat} (hspan : 0 < span)
    (hwidth : width (.parse x) = span) (h : (Error.parse x).Spans line pos span) :
    (ofError line (.parse x)).MarkedIn line := by
  have hpos : x.pos = pos := Option.some.inj h.pos_eq
  refine ⟨pos, span, h, underlines_of_marker hspan ?_⟩
  rw [← hpos, ← hwidth]
  rfl

end Diagnostic

namespace Line

variable {settings : Settings} {source : String} {d : Diagnostic}

theorem markedIn_unrecognized {a b : List Char} {c : Char} (h : source.toList = a ++ c :: b) :
    (Diagnostic.ofError source
      (.lex (.unrecognized (String.singleton c) a.length))).MarkedIn source := by
  have hlength : source.length = a.length + (b.length + 1) := by
    rw [← String.length_toList, h, List.length_append, List.length_cons]
  have hslice : slice source a.length (String.singleton c).length = String.singleton c :=
    slice_of_append (by simpa using h)
  rw [String.length_singleton] at hslice
  have hnot : ¬ (Error.lex (.unrecognized (String.singleton c) a.length)).AtEnd := by
    simp [Error.AtEnd, Error.token?]
  have hspans : (Error.lex (.unrecognized (String.singleton c) a.length)).Spans source
      a.length 1 :=
    { pos_eq := rfl
      pos_le := by omega
      atEnd_iff := iff_of_false (by omega) hnot
      text := fun _ => ⟨by omega, congrArg some hslice.symm⟩
      opening := by simp }
  exact ⟨a.length, 1, hspans, Diagnostic.underlines_of_marker Nat.one_pos rfl⟩

/-- An unclosed group of a line has its parenthesis before the rejected token. -/
theorem exists_opening {w u v : List Token} {t : Token} {x : ParseError} {pos : Nat}
    (hw : Splits rule 0 source.toList w)
    (htokens : w ++ [Token.endAt source.length] = u ++ t :: v) (hx : RejectsProgram u t x)
    (hpos : t.pos = pos) (a : Token) (openPos : Int) (hunclosed : x = .unclosedGroup a openPos) :
    ∃ n : Nat, openPos = n ∧ n < pos ∧ source.toList[n]? = some '(' := by
  obtain ⟨o, ho, hkind, rfl⟩ : ∃ o ∈ u, o.kind = .lparen ∧ o.pos = openPos := by
    subst hunclosed
    cases hx.reports with
    | unclosed ho hkind => exact ⟨_, ho, hkind, rfl⟩
  -- The parenthesis is one of the tokens of the line, since the end token is none.
  have hword : o ∈ w := by
    have hmem : o ∈ w ++ [Token.endAt source.length] := by
      rw [htokens]
      exact List.mem_append_left _ ho
    rcases List.mem_append.mp hmem with hmem | hmem
    · exact hmem
    · cases List.mem_singleton.mp hmem
      cases hkind
  obtain ⟨before, after, hsource, hopen, -⟩ := hw.exists_append o hword
  have hlexeme := hw.isLexeme o hword
  rw [hkind] at hlexeme
  rw [hlexeme.eq_lparen] at hsource
  have horder := hw.pairwise_pos_lt
  rw [Nat.zero_add, String.length_toList, htokens, List.pairwise_append] at horder
  have hlt := horder.2.2 o ho t List.mem_cons_self
  rw [Nat.zero_add] at hopen
  refine ⟨before.length, hopen, ?_, by simp [hsource]⟩
  rw [hopen, hpos] at hlt
  exact Int.ofNat_lt.mp hlt

/-- An error about a token of a line is marked under the text of the token. -/
theorem markedIn_token {w u v : List Token} {t : Token} {x : ParseError}
    (hw : Splits rule 0 source.toList w)
    (htokens : w ++ [Token.endAt source.length] = u ++ t :: v) (hx : RejectsProgram u t x)
    (ht : t ∈ w) : (Diagnostic.ofError source (.parse x)).MarkedIn source := by
  obtain ⟨a, b, hsource, hpos, htext⟩ := hw.exists_append t ht
  rw [Nat.zero_add] at hpos
  have hkind := hw.kind_ne_eof t ht
  have htoken := hx.reports.token?_eq hkind
  have hlength : source.length = a.length + (t.text.length + b.length) := by
    rw [← String.length_toList, hsource, List.length_append, List.length_append,
      String.length_toList]
  have hnot : ¬ (Error.parse x).AtEnd := by
    rintro (⟨pos, hend⟩ | ⟨s, hs, heof⟩)
    · cases hend
      cases htoken
    · cases htoken.symm.trans hs
      exact hkind heof
  have hwidth : Diagnostic.width (.parse x) = t.text.length := by
    have hempty : t.text.isEmpty = false := by
      rw [← Bool.not_eq_true, String.isEmpty_iff]
      intro h
      simp [h] at htext
    simp [Diagnostic.width, Error.token?, htoken, hempty]
  refine Diagnostic.markedIn_ofError htext hwidth
    { pos_eq := congrArg some (hx.pointsAt.1.trans hpos)
      pos_le := by omega
      atEnd_iff := iff_of_false (by omega) hnot
      text := fun _ => ⟨by omega, ?_⟩
      opening := ?_ }
  · simp [Error.offending?, Error.token?, htoken, slice_of_append hsource]
  · rintro s openPos ⟨⟩
    exact exists_opening hw htokens hx hpos s openPos rfl

/-- An error at the end of a line is marked behind the line. -/
theorem markedIn_end {w u v : List Token} {x : ParseError}
    (hw : Splits rule 0 source.toList w)
    (htokens : w ++ [Token.endAt source.length] = u ++ Token.endAt source.length :: v)
    (hx : RejectsProgram u (Token.endAt source.length) x) :
    (Diagnostic.ofError source (.parse x)).MarkedIn source := by
  have hend : (Error.parse x).AtEnd ∧ Diagnostic.width (.parse x) = 1 := by
    cases hx.reports with
    | finish _ => exact ⟨Or.inl ⟨_, rfl⟩, rfl⟩
    | _ => exact ⟨Or.inr ⟨_, rfl, rfl⟩, rfl⟩
  refine Diagnostic.markedIn_ofError Nat.one_pos hend.2
    { pos_eq := congrArg some hx.pointsAt.1
      pos_le := Nat.le_refl _
      atEnd_iff := iff_of_true ⟨rfl, rfl⟩ hend.1
      text := fun hnot => absurd hend.1 hnot
      opening := ?_ }
  rintro s openPos ⟨⟩
  exact exists_opening hw htokens hx rfl s openPos rfl

theorem markedIn_of_unread (h : Unread rule source d) : d.MarkedIn source := by
  cases h with
  | lex _ hsource => exact markedIn_unrecognized hsource
  | @parse w u v t x hw htokens hx =>
      have ht : t ∈ w ++ [Token.endAt source.length] := by
        rw [htokens]
        exact List.mem_append_right u List.mem_cons_self
      rcases List.mem_append.mp ht with ht | ht
      · exact markedIn_token hw htokens hx ht
      · cases List.mem_singleton.mp ht
        exact markedIn_end hw htokens hx

/-- An error of evaluation has no marker. Every other error that a line ends with
is about a span of the line, which is the offending text or, exactly at the end of
the input, one column behind the line; and the carets stand under that span. -/
theorem evaluate_error_markedIn (h : evaluate settings source = .error d) :
    (∀ cause, d.error = .eval cause → d.marker = none) ∧
    ((∀ cause, d.error ≠ .eval cause) → d.MarkedIn source) := by
  rcases unread_or_of_evaluate h with hunread | ⟨p, x, -, -, rfl⟩
  · refine ⟨?_, fun _ => markedIn_of_unread hunread⟩
    intro cause hcause
    cases hunread with
    | lex _ _ => cases hcause
    | parse _ _ _ => cases hcause
  · exact ⟨fun _ _ => rfl, fun hother => absurd rfl (hother x)⟩

/-- In `2 * (x + 1.5;` the caret stands under the semicolon. -/
theorem evaluate_error_markedIn_semicolon :
    evaluate .standard "2 * (x + 1.5;" =
      .error (.ofError "2 * (x + 1.5;" (.parse (.unclosedGroup ⟨.semicolon, ";", 12⟩ 4))) ∧
    (Diagnostic.ofError "2 * (x + 1.5;"
      (.parse (.unclosedGroup ⟨.semicolon, ";", 12⟩ 4))).MarkedIn "2 * (x + 1.5;" := by
  have hscan : Token.scan .any "2 * (x + 1.5;" =
      .ok [⟨.number, "2", 0⟩, ⟨.star, "*", 2⟩, ⟨.lparen, "(", 4⟩, ⟨.ident, "x", 5⟩, ⟨.plus, "+", 7⟩,
        ⟨.number, "1.5", 9⟩, ⟨.semicolon, ";", 12⟩, ⟨.eof, "", 13⟩] := by decide +kernel
  have hparse : Program.ofTokens
      [⟨.number, "2", 0⟩, ⟨.star, "*", 2⟩, ⟨.lparen, "(", 4⟩, ⟨.ident, "x", 5⟩, ⟨.plus, "+", 7⟩,
        ⟨.number, "1.5", 9⟩, ⟨.semicolon, ";", 12⟩, ⟨.eof, "", 13⟩] =
      .error (.unclosedGroup ⟨.semicolon, ";", 12⟩ 4) := by cbv
  have heval : evaluate .standard "2 * (x + 1.5;" =
      .error (.ofError "2 * (x + 1.5;" (.parse (.unclosedGroup ⟨.semicolon, ";", 12⟩ 4))) := by
    have hrule : Settings.standard.wordRule = .any := rfl
    simp only [evaluate, program, tokens, hrule, hscan, hparse]
  refine ⟨heval, (evaluate_error_markedIn heval).2 ?_⟩
  rintro cause ⟨⟩

end Line

end LineCalc
