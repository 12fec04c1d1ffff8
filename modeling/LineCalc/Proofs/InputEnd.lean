import LineCalc.Proofs.Acceptance

/-!
# The end of the input

A token list ends with its last token or with an end token, and neither the readers
nor their errors tell the two apart: a list is read like the list with an end token
behind it, and what stands behind the end token is never read.

## Implementation notes

The offset at which a list ends is computed once from its last token. Behind an end
token that offset is another one, but it is looked at only where the tokens run out.
-/

namespace LineCalc.Parser

open Grammar

/-- The offset at which a token list ends: that behind its last token, or zero. -/
inductive EndsAt : List Token → Int → Prop
  | nil : EndsAt [] 0
  | last (ts : List Token) (t : Token) : EndsAt (ts ++ [t]) (t.pos + t.text.length)

theorem EndsAt.finishOf_eq {ts : List Token} {finish : Int} (h : EndsAt ts finish) :
    finishOf ts = finish := by
  cases h with
  | nil => rfl
  | last ts t => simp [finishOf]

/-- Where the tokens run out, the end token behind them comes next. -/
theorem current_append_end (finish finish' : Int) (rest us : List Token) :
    current finish' (rest ++ Token.endAt finish :: us) = current finish rest := by
  cases rest with
  | nil => rfl
  | cons t rest => rfl

theorem eq_nil_of_current {finish : Int} {rest : List Token} (hrest : ∀ t ∈ rest, t.kind ≠ .eof)
    (h : (current finish rest).kind = .eof) : rest = [] := by
  rcases (current_kind_eq_eof_iff finish rest).mp h with hnil | ⟨t, us, rfl, ht⟩
  · exact hnil
  · exact absurd ht (hrest t List.mem_cons_self)

/-- An end token where the tokens run out changes nothing, whatever stands behind it
and wherever the longer list ends. -/
theorem readProgram_append_end {finish finish' : Int} {ts : List Token}
    (hts : ∀ t ∈ ts, t.kind ≠ .eof) (us : List Token) :
    readProgram finish' (ts ++ Token.endAt finish :: us) = readProgram finish ts := by
  have hread := explains_readProgram finish ts
  cases hresult : readProgram finish ts with
  | ok p =>
      rw [hresult] at hread
      obtain ⟨w, rest, rfl, hp, hd, heof⟩ := hread
      have hnil : rest = [] :=
        eq_nil_of_current (fun t ht => hts t (List.mem_append_right w ht)) heof
      rw [hnil, List.append_nil]
      apply readProgram_eq_ok hp hd
      rfl
  | error x =>
      rw [hresult] at hread
      obtain ⟨u, rest, rfl, hx⟩ := hread
      rw [List.append_assoc]
      apply readProgram_eq_error
      rwa [current_append_end]

/-- A token list without end tokens is read like the same list with an end token
behind it, at the offset where the list ends, and any tokens behind that. -/
theorem ofTokens_append_end {ts : List Token} {finish : Int}
    (hts : ∀ t ∈ ts, t.kind ≠ .eof) (hfinish : EndsAt ts finish) (us : List Token) :
    Program.ofTokens (ts ++ [Token.endAt finish] ++ us) = Program.ofTokens ts := by
  rw [ofTokens_eq_readProgram ts, hfinish.finishOf_eq, List.append_assoc]
  exact readProgram_append_end hts us

/-- A parenthesis that is opened at the end is not closed behind an end token. -/
theorem ofTokens_append_end_open :
    EndsAt [⟨.number, "1", 3⟩, ⟨.star, "*", 5⟩, ⟨.lparen, "(", 8⟩] 9 ∧
    Program.ofTokens ([⟨.number, "1", 3⟩, ⟨.star, "*", 5⟩, ⟨.lparen, "(", 8⟩] ++
        [Token.endAt 9] ++ [⟨.number, "2", 9⟩, ⟨.rparen, ")", 10⟩]) =
      Program.ofTokens [⟨.number, "1", 3⟩, ⟨.star, "*", 5⟩, ⟨.lparen, "(", 8⟩] := by
  have hfinish : EndsAt [⟨.number, "1", 3⟩, ⟨.star, "*", 5⟩, ⟨.lparen, "(", 8⟩] 9 :=
    .last [⟨.number, "1", 3⟩, ⟨.star, "*", 5⟩] ⟨.lparen, "(", 8⟩
  exact ⟨hfinish, ofTokens_append_end (by decide) hfinish _⟩

end LineCalc.Parser
