import LineCalc.Proofs.Locality
import Mathlib.Control.Monad.Basic

/-!
# Cutting a line

A line can be cut at blanks and at a mark: it is split into the tokens of the
part before the cut, the token of the mark if it is one, and the tokens of the
part behind it at their places in the whole line. The first part that is not
split fails as it does alone, at its place in the whole line.

## Implementation notes

The parts before a cut are followed twice, along the tokens of a part that is
split and along the lexer itself in a part that is not. The offset at which a text
stands is only added to what the lexer returns, so a part can be split alone.
-/

namespace LineCalc

/-- An error further to the right in its line. -/
def LexError.shift (offset : Nat) : LexError → LexError
  | unrecognized text pos => unrecognized text (pos + offset)
  | described message => described message

namespace Lexer

open Text

variable {rule : WordRule} {pos : Nat} {a b : List Char} {w : List Token}

/-- A text is followed from left to right: it ends, or it begins with a blank, with
a character that begins no token, or with a token. -/
theorem scan_induction (rule : WordRule) {motive : Nat → List Char → Prop}
    (nil : ∀ pos, motive pos [])
    (blank : ∀ pos c cs, isBlank c = true → motive (pos + 1) cs → motive pos (c :: cs))
    (unrecognized : ∀ pos c cs, isBlank c = false → lexeme? rule c cs = none →
      motive pos (c :: cs))
    (token : ∀ pos c tail rest kind, isBlank c = false →
      lexeme? rule c (tail ++ rest) = some (kind, tail) →
      motive (pos + (c :: tail).length) rest → motive pos (c :: (tail ++ rest)))
    (pos : Nat) (cs : List Char) : motive pos cs := by
  have step : ∀ pos c cs kind tail, ¬ isBlank c = true → lexeme? rule c cs = some (kind, tail) →
      motive (pos + 1 + tail.length) (cs.drop tail.length) → motive pos (c :: cs) := by
    intro pos c cs kind tail hblank hlexeme ih
    obtain ⟨rest, rfl⟩ := exists_of_lexeme? hlexeme
    rw [List.drop_left, Nat.add_assoc, Nat.add_comm 1] at ih
    exact token pos c tail rest kind (Bool.eq_false_iff.mpr hblank) hlexeme ih
  fun_induction scan rule pos cs with
  | case1 pos => exact nil pos
  | case2 pos c cs hblank ih => exact blank pos c cs hblank ih
  | case3 pos c cs hblank hlexeme =>
      exact unrecognized pos c cs (Bool.eq_false_iff.mpr hblank) hlexeme
  | case4 pos c cs hblank kind tail hlexeme _ _ ih =>
      exact step pos c cs kind tail hblank hlexeme ih
  | case5 pos c cs hblank kind tail hlexeme _ _ ih =>
      exact step pos c cs kind tail hblank hlexeme ih

/-- The offset of a text is only added to the offsets in what it is split into or
fails with. -/
theorem scan_add (rule : WordRule) (pos offset : Nat) (cs : List Char) :
    scan rule (pos + offset) cs =
      match scan rule pos cs with
      | .error x => .error (x.shift offset)
      | .ok ts => .ok (ts.map (Token.shift offset)) := by
  induction pos, cs using scan_induction rule with
  | nil pos =>
      rw [scan_nil, scan_nil]
      rfl
  | blank pos c cs hblank ih =>
      rw [scan_blank _ _ _ hblank, scan_blank _ _ _ hblank, Nat.add_right_comm]
      exact ih
  | unrecognized pos c cs hblank hlexeme =>
      rw [scan_unrecognized hblank hlexeme, scan_unrecognized hblank hlexeme]
      rfl
  | token pos c tail rest kind hblank hlexeme ih =>
      rw [scan_token hblank hlexeme, scan_token hblank hlexeme, Nat.add_right_comm, ih]
      cases scan rule (pos + (c :: tail).length) rest <;> rfl

/-- A text that is split is followed by what a separated text behind it is split
into or fails with. -/
theorem Splits.scan_append (h : Splits rule pos a w) (hb : Separated b) :
    scan rule pos (a ++ b) = (scan rule (pos + a.length) b).map (w ++ ·) := by
  induction h with
  | @nil pos => exact (congrFun Except.map_id _).symm
  | @blank pos c cs w hblank _ ih =>
      rw [List.cons_append, scan_blank _ _ _ hblank, ih, List.length_cons, Nat.add_assoc,
        Nat.add_comm 1]
  | @token pos c tail rest kind w hblank hlexeme _ ih =>
      rw [← lexeme?_append rule c (tail ++ rest) hb, List.append_assoc] at hlexeme
      rw [List.cons_append, List.append_assoc, scan_token hblank hlexeme, ih, ← List.cons_append,
        List.length_append, ← Nat.add_assoc]
      cases scan rule (pos + (c :: tail).length + rest.length) b <;> rfl

/-- A text that is not split fails in the same way before every separated text. -/
theorem scan_append_of_error {x : LexError} (h : scan rule pos a = .error x)
    (hb : Separated b) : scan rule pos (a ++ b) = .error x := by
  induction pos, a using scan_induction rule with
  | nil pos =>
      rw [scan_nil] at h
      cases h
  | blank pos c cs hblank ih =>
      rw [scan_blank _ _ _ hblank] at h
      rw [List.cons_append, scan_blank _ _ _ hblank]
      exact ih h
  | unrecognized pos c cs hblank hlexeme =>
      rw [scan_unrecognized hblank hlexeme] at h
      rw [← lexeme?_append rule c cs hb] at hlexeme
      exact (scan_unrecognized hblank hlexeme).trans h
  | token pos c tail rest kind hblank hlexeme ih =>
      rw [scan_token hblank hlexeme] at h
      rw [← lexeme?_append rule c (tail ++ rest) hb, List.append_assoc] at hlexeme
      rw [List.cons_append, List.append_assoc, scan_token hblank hlexeme]
      cases hscan : scan rule (pos + (c :: tail).length) rest with
      | ok ts =>
          rw [hscan] at h
          cases h
      | error y =>
          rw [hscan] at h
          cases h
          rw [ih hscan]
          rfl

/-- What a line can be cut at, and the tokens it is split into at an offset: blanks,
which are no token, or a mark, which is one. -/
inductive Cut (pos : Nat) : (text : List Char) → List Token → Prop
  | blanks {text : List Char} (hne : text ≠ []) (hblank : ∀ c ∈ text, isBlank c = true) :
      Cut pos text []
  | mark {c : Char} {kind : TokenKind} (hmark : (c, kind) ∈ marks) :
      Cut pos [c] [⟨kind, String.ofList [c], pos⟩]

namespace Cut

variable {m : List Char}

theorem separated (h : Cut pos m w) (cs : List Char) : Separated (m ++ cs) := by
  cases h with
  | blanks hne hblank =>
      cases m with
      | nil => exact absurd rfl hne
      | cons c m => exact separated_blank (hblank c List.mem_cons_self) _
  | mark hmark => exact separated_mark hmark cs

theorem scan_eq (h : Cut pos m w) (cs : List Char) :
    scan rule pos (m ++ cs) = (scan rule (pos + m.length) cs).map (w ++ ·) := by
  cases h with
  | blanks _ hblank =>
      rw [scan_gap rule pos hblank]
      exact (congrFun Except.map_id _).symm
  | mark hmark =>
      obtain ⟨hblank, -⟩ := isBlank_of_mark hmark
      exact @scan_token rule pos _ _ [] cs hblank (lexeme?_mark hmark cs)

end Cut

/-- A line that is cut at blanks or at a mark is split piece by piece. If the first
part fails, the line fails with the same error; if only the second part fails, the
line fails with its error further to the right. If neither fails, the tokens are
those of the first part without the end token, that of the cut if it is a mark, and
those of the second part further to the right. -/
theorem scan_append_cut (rule : WordRule) (a b : String) {m : String} {v : List Token}
    (h : Cut a.length m.toList v) :
    (∀ ts, Token.scan rule a = .ok ts → ts = ts.dropLast ++ [Token.endAt a.length]) ∧
    Token.scan rule (a ++ m ++ b) =
      match Token.scan rule a, Token.scan rule b with
      | .error x, _ => .error x
      | .ok _, .error x => .error (x.shift (a.length + m.length))
      | .ok ts, .ok us =>
          .ok (ts.dropLast ++ v ++ us.map (Token.shift (a.length + m.length))) := by
  have htext : (a ++ m ++ b).toList = a.toList ++ (m.toList ++ b.toList) := by simp
  have hcut : scan rule a.length (m.toList ++ b.toList) =
      (scan rule (0 + (a.length + m.length)) b.toList).map (v ++ ·) := by
    rw [h.scan_eq, String.length_toList, Nat.zero_add]
  rw [scan_add] at hcut
  cases hscan : Token.scan rule a with
  | error x =>
      refine ⟨by rintro ts ⟨⟩, ?_⟩
      rw [Token.scan, htext]
      exact scan_append_of_error hscan (h.separated _)
  | ok ts =>
      obtain ⟨w, hw⟩ := Splits.exists_of_scan hscan
      obtain rfl := Except.ok.inj (hscan.symm.trans hw.scan_eq)
      rw [Nat.zero_add, String.length_toList]
      constructor
      · rintro _ ⟨⟩
        rw [List.dropLast_concat]
      · rw [Token.scan, htext, hw.scan_append (h.separated _), Nat.zero_add, String.length_toList,
          hcut]
        cases hb : scan rule 0 b.toList with
        | error x => simp only [Token.scan, hb, Except.map]
        | ok us =>
            simp only [Token.scan, hb, Except.map, List.dropLast_concat, List.append_assoc]

/-- In `x(1.5@` the part behind the parenthesis fails under the strict rule, at its
place in the line, and is split as it is alone under the permissive one. -/
theorem scan_append_cut_parenthesis :
    Cut "x".length "(".toList [⟨.lparen, "(", 1⟩] ∧
    Token.scan .strict ("x" ++ "(" ++ "1.5@") = .error (.unrecognized "@" 5) ∧
    Token.scan .any ("x" ++ "(" ++ "1.5@") =
      .ok [⟨.ident, "x", 0⟩, ⟨.lparen, "(", 1⟩, ⟨.number, "1.5", 2⟩, ⟨.ident, "@", 5⟩,
        ⟨.eof, "", 6⟩] := by
  have hcut : Cut "x".length "(".toList [⟨.lparen, "(", 1⟩] := .mark (by decide)
  have hleft (rule : WordRule) :
      Token.scan rule "x" = .ok [⟨.ident, "x", 0⟩, ⟨.eof, "", 1⟩] := by
    cases rule <;> decide +kernel
  have hstrict : Token.scan .strict "1.5@" = .error (.unrecognized "@" 3) := by decide +kernel
  have hany : Token.scan .any "1.5@" =
      .ok [⟨.number, "1.5", 0⟩, ⟨.ident, "@", 3⟩, ⟨.eof, "", 4⟩] := by
    decide +kernel
  refine ⟨hcut, ?_, ?_⟩
  · rw [(scan_append_cut .strict "x" "1.5@" hcut).2, hleft, hstrict]
    rfl
  · rw [(scan_append_cut .any "x" "1.5@" hcut).2, hleft, hany]
    rfl

end Lexer

end LineCalc
