import LineCalc.Display.Markup
import LineCalc.Proofs.Segmentation

/-!
# What is shown of escaped text

A label is shown piece by piece, so what is shown of an escaped text follows from what
its pieces are. Escaping keeps the pieces of a text and only changes how many backslashes
stand in front of its tags, and an odd number of them is read as what was there before.
Two things are lost. A backslash in front of a bracket that begins no tag is dropped, since
such a bracket is not escaped. And backslashes at the end of the text are not escaped
either, except that a single one is doubled, so they are shown as they stand if nothing
follows, and are halved in front of a closing tag.

## Implementation notes

The same induction over pieces shows that a text can be cut in front of its last
backslashes and that escaping keeps pieces. It is therefore stated for any change to the
number of backslashes in front of tags.
-/

namespace LineCalc.Markup

variable {n : Nat} {c : Char} {cs body rest s : List Char}

/-- Whether a character is one of the two that tags stand between. -/
def isBracket (c : Char) : Bool := c == '[' || c == ']'

/-- The first bracket of a text. -/
def firstBracket? (cs : List Char) : Option Char := cs.find? isBracket

/-- A text that is a tag between brackets. -/
structure IsTag (body : List Char) : Prop where
  opens : ∃ c tail, body = c :: tail ∧ opensTag c = true
  plain : ∀ d ∈ body, isBracket d = false

theorem isBracket_of_opensTag (h : opensTag c = true) : isBracket c = false := by
  rw [isBracket, Bool.or_eq_false_iff, beq_eq_false_iff_ne, beq_eq_false_iff_ne]
  constructor
  · rintro rfl
    exact absurd h (by decide)
  · rintro rfl
    exact absurd h (by decide)

theorem bne_and_bne_eq (d : Char) : (d != '[' && d != ']') = !isBracket d := by
  simp [isBracket, bne]

theorem tagBody?_of_isTag (h : IsTag body) (rest : List Char) :
    tagBody? (body ++ ']' :: rest) = some body := by
  obtain ⟨⟨c, tail, rfl, hopens⟩, hplain⟩ := h
  have htail : ∀ d ∈ tail, (!isBracket d) = true := fun d hd => by
    rw [hplain d (List.mem_cons_of_mem c hd)]
    rfl
  have htake : (tail ++ ']' :: rest).takeWhile (fun d => !isBracket d) = tail := by
    rw [List.takeWhile_append_of_pos htail]
    simp [isBracket]
  simp only [List.cons_append, tagBody?, hopens, if_true, bne_and_bne_eq, htake, List.drop_left]

theorem exists_of_tagBody? (h : tagBody? cs = some body) :
    IsTag body ∧ ∃ rest, cs = body ++ ']' :: rest := by
  cases cs with
  | nil => cases h
  | cons c cs =>
      simp only [tagBody?] at h
      split at h
      · next hopens =>
          split at h
          · next rest hrest =>
              cases h
              have hall := List.all_eq_true.mp
                (@List.all_takeWhile _ (fun d => d != '[' && d != ']') cs)
              refine ⟨⟨⟨c, _, rfl, hopens⟩, List.forall_mem_cons.mpr ?_⟩, rest, ?_⟩
              · refine ⟨isBracket_of_opensTag hopens, fun d hd => ?_⟩
                have hd := hall d hd
                rw [bne_and_bne_eq] at hd
                simpa using hd
              · rw [← hrest, List.cons_append, List.prefix_iff_eq_append.mp
                  (List.takeWhile_prefix _)]
          · cases h
      · cases h

/-- A bracket begins no tag if a wrong character follows it, or if another bracket is opened
or the text ends before the tag does. -/
theorem tagBody?_eq_none_iff :
    tagBody? cs = none ↔ ∀ c ∈ cs.head?, opensTag c = true → firstBracket? cs ≠ some ']' := by
  constructor
  · intro hnone c hc hopens hfirst
    obtain ⟨cs, rfl⟩ := List.head?_eq_some_iff.mp hc
    rw [firstBracket?, List.find?_cons, isBracket_of_opensTag hopens] at hfirst
    obtain ⟨-, tail, rest, rfl, htail⟩ := List.find?_eq_some_iff_append.mp hfirst
    have hplain : ∀ d ∈ c :: tail, isBracket d = false :=
      List.forall_mem_cons.mpr ⟨isBracket_of_opensTag hopens, by simpa using htail⟩
    have htag := tagBody?_of_isTag ⟨⟨c, tail, rfl, hopens⟩, hplain⟩ rest
    rw [List.cons_append, hnone] at htag
    cases htag
  · intro h
    cases hbody : tagBody? cs with
    | none => rfl
    | some body =>
        obtain ⟨⟨⟨c, tail, rfl, hopens⟩, hplain⟩, rest, rfl⟩ := exists_of_tagBody? hbody
        refine absurd (List.find?_eq_some_iff_append.mpr ⟨rfl, _, rest, rfl, ?_⟩) (h c rfl hopens)
        intro d hd
        rw [hplain d hd]
        rfl

/-- A text that does not complete a tag in front of it. -/
structure Separate (s : List Char) : Prop where
  head : ∀ c ∈ s.head?, opensTag c = false
  bracket : firstBracket? s ≠ some ']'

theorem separate_nil : Separate [] := ⟨by simp, by simp [firstBracket?]⟩

theorem separate_bracket (s : List Char) : Separate ('[' :: s) :=
  ⟨by rintro c ⟨⟩; decide, by simp [firstBracket?, isBracket]⟩

theorem firstBracket?_backslashes (n : Nat) : firstBracket? (backslashes n) = none := by
  simp [firstBracket?, backslashes, isBracket]

theorem firstBracket?_append (cs s : List Char) :
    firstBracket? (cs ++ s) = (firstBracket? cs).or (firstBracket? s) :=
  List.find?_append

theorem Separate.backslashes (h : Separate s) (n : Nat) : Separate (backslashes n ++ s) := by
  constructor
  · cases n with
    | zero => exact h.head
    | succ n =>
        rintro c ⟨⟩
        decide
  · rw [firstBracket?_append, firstBracket?_backslashes]
    exact h.bracket

theorem pieces_nil (n : Nat) : pieces n [] = (backslashes n).map .plain := by
  rw [pieces]

theorem pieces_slash (n : Nat) (cs : List Char) : pieces n ('\\' :: cs) = pieces (n + 1) cs := by
  rw [pieces, if_pos rfl]

theorem pieces_tag (h : IsTag body) (n : Nat) (rest : List Char) :
    pieces n ('[' :: (body ++ ']' :: rest)) = .tag n body :: pieces 0 rest := by
  have hdrop : (body ++ ']' :: rest).drop (body.length + 1) = rest := by simp
  rw [pieces, if_neg (by decide), if_pos rfl]
  simp only [tagBody?_of_isTag h, hdrop]

theorem pieces_bracket (h : tagBody? cs = none) (n : Nat) :
    pieces n ('[' :: cs) = .bracket n :: pieces 0 cs := by
  rw [pieces, if_neg (by decide), if_pos rfl]
  simp only [h]

theorem pieces_plain (hslash : c ≠ '\\') (hbracket : c ≠ '[') (n : Nat) (cs : List Char) :
    pieces n (c :: cs) = (backslashes n).map .plain ++ .plain c :: pieces 0 cs := by
  rw [pieces, if_neg hslash, if_neg hbracket]

theorem pieces_backslashes (n m : Nat) (cs : List Char) :
    pieces n (backslashes m ++ cs) = pieces (n + m) cs := by
  induction m generalizing n with
  | zero => rfl
  | succ m ih =>
      have hcons : backslashes (m + 1) ++ cs = '\\' :: (backslashes m ++ cs) := rfl
      rw [hcons, pieces_slash, ih, Nat.add_assoc, Nat.add_comm 1]

/-- A text is followed from left to right: it ends, or it begins with a backslash, with a
tag, with a bracket that begins no tag, or with another character. -/
theorem pieces_induction {motive : Nat → List Char → Prop}
    (nil : ∀ n, motive n [])
    (slash : ∀ n cs, motive (n + 1) cs → motive n ('\\' :: cs))
    (tag : ∀ n body rest, IsTag body → motive 0 rest →
      motive n ('[' :: (body ++ ']' :: rest)))
    (bracket : ∀ n cs, tagBody? cs = none → motive 0 cs → motive n ('[' :: cs))
    (plain : ∀ n c cs, c ≠ '\\' → c ≠ '[' → motive 0 cs → motive n (c :: cs))
    (n : Nat) (cs : List Char) : motive n cs := by
  fun_induction pieces n cs with
  | case1 n => exact nil n
  | case2 n cs ih => exact slash n cs ih
  | case3 n cs body hbody _ ih =>
      obtain ⟨htag, rest, rfl⟩ := exists_of_tagBody? hbody
      have hdrop : (body ++ ']' :: rest).drop (body.length + 1) = rest := by simp
      rw [hdrop] at ih
      exact tag n body rest htag ih
  | case4 n cs hbody _ ih => exact bracket n cs hbody ih
  | case5 n c cs hslash hbracket ih => exact plain n c cs hslash hbracket ih

namespace Piece

/-- A piece written with a changed number of backslashes in front of a tag. -/
def written (f : Nat → Nat) : Piece → List Char
  | plain c => [c]
  | bracket slashes => backslashes slashes ++ ['[']
  | tag slashes body => backslashes (f slashes) ++ '[' :: body ++ [']']

/-- A piece with a changed number of backslashes in front of a tag. -/
def retag (f : Nat → Nat) : Piece → Piece
  | tag slashes body => tag (f slashes) body
  | p => p

end Piece

/-- The pieces of a text, written with a changed number of backslashes in front of tags. -/
def rewritten (f : Nat → Nat) (n : Nat) (cs : List Char) : List Char :=
  (pieces n cs).flatMap (Piece.written f)

section Rewritten

variable {f : Nat → Nat}

theorem flatMap_plain (s : List Char) :
    (s.map Piece.plain).flatMap (Piece.written f) = s := by
  induction s with
  | nil => rfl
  | cons c s ih =>
      rw [List.map_cons, List.flatMap_cons, ih]
      rfl

theorem rewritten_nil (n : Nat) : rewritten f n [] = backslashes n := by
  rw [rewritten, pieces_nil, flatMap_plain]

theorem rewritten_slash (n : Nat) (cs : List Char) :
    rewritten f n ('\\' :: cs) = rewritten f (n + 1) cs := by
  rw [rewritten, pieces_slash, rewritten]

theorem rewritten_tag (h : IsTag body) (n : Nat) (rest : List Char) :
    rewritten f n ('[' :: (body ++ ']' :: rest)) =
      backslashes (f n) ++ '[' :: (body ++ ']' :: rewritten f 0 rest) := by
  simp [rewritten, pieces_tag h, Piece.written]

theorem rewritten_bracket (h : tagBody? cs = none) (n : Nat) :
    rewritten f n ('[' :: cs) = backslashes n ++ '[' :: rewritten f 0 cs := by
  simp [rewritten, pieces_bracket h, Piece.written]

theorem rewritten_plain (hslash : c ≠ '\\') (hbracket : c ≠ '[') (n : Nat) (cs : List Char) :
    rewritten f n (c :: cs) = backslashes n ++ c :: rewritten f 0 cs := by
  rw [rewritten, pieces_plain hslash hbracket, List.flatMap_append, flatMap_plain]
  rfl

theorem backslashes_append_slash (n : Nat) (cs : List Char) :
    backslashes n ++ '\\' :: cs = backslashes (n + 1) ++ cs := by
  rw [backslashes, backslashes, List.replicate_succ', List.append_assoc]
  rfl

/-- Without a change the pieces are written as the text they were cut from. -/
theorem rewritten_id (n : Nat) (cs : List Char) : rewritten id n cs = backslashes n ++ cs := by
  induction n, cs using pieces_induction with
  | nil n => rw [rewritten_nil, List.append_nil]
  | slash n cs ih => rw [rewritten_slash, ih, backslashes_append_slash]
  | tag n body rest htag ih =>
      rw [rewritten_tag htag, ih]
      rfl
  | bracket n cs hbody ih =>
      rw [rewritten_bracket hbody, ih]
      rfl
  | plain n c cs hslash hbracket ih =>
      rw [rewritten_plain hslash hbracket, ih]
      rfl

/-- A change in front of tags keeps the first bracket. -/
theorem firstBracket?_rewritten (n : Nat) (cs : List Char) :
    firstBracket? (rewritten f n cs) = firstBracket? cs := by
  induction n, cs using pieces_induction with
  | nil n =>
      rw [rewritten_nil, firstBracket?_backslashes]
      rfl
  | slash n cs ih =>
      rw [rewritten_slash, ih]
      rfl
  | tag n body rest htag _ =>
      rw [rewritten_tag htag, firstBracket?_append, firstBracket?_backslashes]
      rfl
  | bracket n cs hbody _ =>
      rw [rewritten_bracket hbody, firstBracket?_append, firstBracket?_backslashes]
      rfl
  | plain n c cs hslash hbracket ih =>
      rw [rewritten_plain hslash hbracket, firstBracket?_append, firstBracket?_backslashes,
        Option.none_or, firstBracket?, firstBracket?, List.find?_cons, List.find?_cons]
      rw [firstBracket?, firstBracket?] at ih
      rw [ih]

theorem head?_backslashes_append {d : Char} (n : Nat) (h : d ∈ (backslashes n ++ c :: cs).head?) :
    d = '\\' ∨ d = c := by
  cases n with
  | zero => exact Or.inr (Option.some.inj h).symm
  | succ n => exact Or.inl (Option.some.inj h).symm

/-- Only the first character of a text may follow the bracket of a tag in front of it. -/
theorem head?_rewritten {d : Char} (hopens : opensTag d = true) (n : Nat) (cs : List Char)
    (h : d ∈ (rewritten f n cs).head?) : n = 0 ∧ d ∈ cs.head? := by
  have hslash : d ≠ '\\' := by
    rintro rfl
    exact absurd hopens (by decide)
  have hbracket : d ≠ '[' := by
    rintro rfl
    exact absurd hopens (by decide)
  induction n, cs using pieces_induction with
  | nil n =>
      rw [rewritten_nil] at h
      exact absurd (List.eq_of_mem_replicate (List.mem_of_mem_head? h)) hslash
  | slash n cs ih =>
      rw [rewritten_slash] at h
      exact absurd (ih h).1 (Nat.succ_ne_zero n)
  | tag n body rest htag _ =>
      rw [rewritten_tag htag] at h
      exact ((head?_backslashes_append _ h).elim hslash hbracket).elim
  | bracket n cs hbody _ =>
      rw [rewritten_bracket hbody] at h
      exact ((head?_backslashes_append _ h).elim hslash hbracket).elim
  | plain n c cs hslash' hbracket' _ =>
      rw [rewritten_plain hslash' hbracket'] at h
      cases n with
      | zero => exact ⟨rfl, h⟩
      | succ n => exact absurd (Option.some.inj h).symm hslash

/-- A bracket that begins no tag begins none in the changed text either. -/
theorem tagBody?_rewritten (h : tagBody? cs = none) (hs : Separate s) :
    tagBody? (rewritten f 0 cs ++ s) = none := by
  rw [tagBody?_eq_none_iff] at h ⊢
  intro d hd hopens
  have hmem : d ∈ (rewritten f 0 cs).head? := by
    rw [List.head?_append, Option.mem_def, Option.or_eq_some_iff] at hd
    rcases hd with hd | ⟨-, hd⟩
    · exact hd
    · have hclosed := hs.head d hd
      rw [hopens] at hclosed
      cases hclosed
  have hfirst := h d (head?_rewritten hopens 0 cs hmem).2 hopens
  rw [firstBracket?_append, firstBracket?_rewritten, ne_eq, Option.or_eq_some_iff]
  rintro (hcs | ⟨-, hbracket⟩)
  · exact hfirst hcs
  · exact hs.bracket hbracket

/-- A text whose last character, if it has one, is no backslash. -/
def EndsPlain (cs : List Char) : Prop := cs.getLast? ≠ some '\\'

theorem EndsPlain.of_append {u v : List Char} (h : EndsPlain (u ++ v)) : EndsPlain v := by
  intro hlast
  apply h
  rw [List.getLast?_append, hlast]
  rfl

theorem EndsPlain.of_cons {u v : List Char} (h : EndsPlain (u ++ c :: v)) : EndsPlain v := by
  rw [← List.singleton_append, ← List.append_assoc] at h
  exact h.of_append

theorem EndsPlain.cons {v : List Char} (h : EndsPlain v) (hc : c ≠ '\\') (u : List Char) :
    EndsPlain (u ++ c :: v) := by
  intro hlast
  rw [List.getLast?_append, List.getLast?_cons, Option.some_or, Option.some.injEq] at hlast
  cases hv : v.getLast? with
  | none =>
      rw [hv] at hlast
      exact hc hlast
  | some d =>
      rw [hv] at hlast
      exact h (hv.trans (congrArg some hlast))

theorem eq_zero_of_endsPlain (h : EndsPlain (backslashes n)) : n = 0 := by
  apply Decidable.byContradiction
  intro hne
  apply h
  rw [backslashes, List.getLast?_replicate, if_neg hne]

/-- Pieces that do not end in backslashes are found again in front of a separate text. -/
theorem pieces_rewritten_append (hs : Separate s) (n : Nat) (cs : List Char)
    (hend : EndsPlain (backslashes n ++ cs)) :
    pieces 0 (rewritten f n cs ++ s) = (pieces n cs).map (Piece.retag f) ++ pieces 0 s := by
  induction n, cs using pieces_induction with
  | nil n =>
      rw [List.append_nil] at hend
      rw [eq_zero_of_endsPlain hend, rewritten_nil, pieces_nil]
      rfl
  | slash n cs ih =>
      rw [backslashes_append_slash] at hend
      rw [rewritten_slash, ih hend, pieces_slash]
  | tag n body rest htag ih =>
      have hrest : EndsPlain rest := hend.of_cons.of_cons
      rw [rewritten_tag htag, pieces_tag htag, List.append_assoc, pieces_backslashes,
        Nat.zero_add, List.cons_append, List.append_assoc, List.cons_append, pieces_tag htag,
        ih hrest]
      rfl
  | bracket n cs hbody ih =>
      -- The text behind the bracket has changed, but it still begins no tag.
      rw [rewritten_bracket hbody, pieces_bracket hbody, List.append_assoc, pieces_backslashes,
        Nat.zero_add, List.cons_append, pieces_bracket (tagBody?_rewritten hbody hs),
        ih hend.of_cons]
      rfl
  | plain n c cs hslash hbracket ih =>
      rw [rewritten_plain hslash hbracket, pieces_plain hslash hbracket, List.append_assoc,
        pieces_backslashes, Nat.zero_add, List.cons_append, pieces_plain hslash hbracket,
        ih hend.of_cons, List.map_append, List.map_map, List.append_assoc]
      rfl

theorem endsPlain_rewritten (n : Nat) (cs : List Char) (hend : EndsPlain (backslashes n ++ cs)) :
    EndsPlain (rewritten f n cs) := by
  induction n, cs using pieces_induction with
  | nil n =>
      rw [List.append_nil] at hend
      rwa [rewritten_nil]
  | slash n cs ih =>
      rw [backslashes_append_slash] at hend
      rw [rewritten_slash]
      exact ih hend
  | tag n body rest htag ih =>
      rw [rewritten_tag htag]
      have hrest : EndsPlain (body ++ ']' :: rewritten f 0 rest) :=
        (ih hend.of_cons.of_cons).cons (by decide) body
      exact hrest.cons (by decide) _
  | bracket n cs hbody ih =>
      rw [rewritten_bracket hbody]
      exact (ih hend.of_cons).cons (by decide) _
  | plain n c cs hslash hbracket ih =>
      rw [rewritten_plain hslash hbracket]
      exact (ih hend.of_cons).cons hslash _

end Rewritten

/-- The number of backslashes at the end of a text. -/
def endSlashes (text : List Char) : Nat := (text.reverse.takeWhile (· == '\\')).length

/-- Every text is cut in front of the backslashes at its end. -/
theorem exists_append_endSlashes (text : List Char) :
    ∃ u e, text = u ++ backslashes e ∧ EndsPlain u ∧ endSlashes text = e := by
  refine ⟨_, _, Lexer.append_end_run '\\' text, ?_, rfl⟩
  intro hlast
  rw [List.getLast?_reverse] at hlast
  have hhead := List.head?_dropWhile_not (· == '\\') text.reverse
  rw [hlast] at hhead
  exact absurd hhead (by decide)

/-- A backslash stands in front of a bracket that begins no tag. -/
def Slashed (text : List Char) : Prop :=
  ∃ u v, text = u ++ '\\' :: '[' :: v ∧ tagBody? v = none

theorem slashed_cons {t : List Char} :
    Slashed (c :: t) ↔ (c = '\\' ∧ ∃ v, t = '[' :: v ∧ tagBody? v = none) ∨ Slashed t := by
  constructor
  · rintro ⟨_ | ⟨d, u⟩, v, heq, hv⟩
    · obtain ⟨rfl, rfl⟩ := List.cons.inj heq
      exact Or.inl ⟨rfl, v, rfl, hv⟩
    · exact Or.inr ⟨u, v, (List.cons.inj heq).2, hv⟩
  · rintro (⟨rfl, v, rfl, hv⟩ | ⟨u, v, rfl, hv⟩)
    · exact ⟨[], v, rfl, hv⟩
    · exact ⟨c :: u, v, rfl, hv⟩

theorem slashed_cons_of_ne (h : c ≠ '\\') {t : List Char} : Slashed (c :: t) ↔ Slashed t := by
  simp [slashed_cons, h]

theorem slashed_backslashes_append (n : Nat) (t : List Char) :
    Slashed (backslashes n ++ t) ↔
      (0 < n ∧ ∃ v, t = '[' :: v ∧ tagBody? v = none) ∨ Slashed t := by
  induction n with
  | zero => simp [backslashes]
  | succ n ih =>
      have hcons : backslashes (n + 1) ++ t = '\\' :: (backslashes n ++ t) := rfl
      rw [hcons, slashed_cons, ih]
      cases n with
      | zero => simp [backslashes]
      | succ n =>
          have hne : ∀ v, backslashes (n + 1) ++ t ≠ '[' :: v := by
            rintro v ⟨⟩
          simp [hne]

theorem slashed_tag_append (hbody : ∀ d ∈ body, isBracket d = false) (rest : List Char) :
    Slashed (body ++ ']' :: rest) ↔ Slashed rest := by
  induction body with
  | nil => exact slashed_cons_of_ne (by decide)
  | cons c body ih =>
      obtain ⟨-, hbody⟩ := List.forall_mem_cons.mp hbody
      have hne : ∀ v, body ++ ']' :: rest ≠ '[' :: v := by
        rintro v heq
        cases body with
        | nil => cases heq
        | cons d body =>
            cases heq
            exact absurd (hbody '[' List.mem_cons_self) (by decide)
      rw [List.cons_append, slashed_cons, ih hbody]
      simp [hne]

/-- Where a backslash stands in front of a bracket that begins no tag, the pieces show it. -/
theorem slashed_iff (n : Nat) (cs : List Char) :
    Slashed (backslashes n ++ cs) ↔ ∃ k, Piece.bracket (k + 1) ∈ pieces n cs := by
  induction n, cs using pieces_induction with
  | nil n =>
      rw [slashed_backslashes_append, pieces_nil]
      simp [Slashed]
  | slash n cs ih => rw [backslashes_append_slash, pieces_slash, ih]
  | tag n body rest htag ih =>
      rw [slashed_backslashes_append, pieces_tag htag, slashed_cons_of_ne (by decide),
        slashed_tag_append htag.plain]
      have ih : Slashed rest ↔ _ := ih
      simp [tagBody?_of_isTag htag, ih]
  | bracket n cs hbody ih =>
      rw [slashed_backslashes_append, pieces_bracket hbody, slashed_cons_of_ne (by decide)]
      have ih : Slashed cs ↔ _ := ih
      simp only [List.mem_cons, Piece.bracket.injEq, exists_or, ih]
      apply or_congr_left
      exact ⟨fun h => ⟨n - 1, by omega⟩, fun ⟨k, hk⟩ => ⟨by omega, cs, rfl, hbody⟩⟩
  | plain n c cs hslash hbracket ih =>
      rw [slashed_backslashes_append, pieces_plain hslash hbracket, slashed_cons_of_ne hslash]
      have ih : Slashed cs ↔ _ := ih
      simp [hbracket, ih]

namespace Piece

/-- What is shown of a piece after it was escaped. -/
def kept (p : Piece) : List Char := (p.retag (2 * · + 1)).shown

theorem escaped_eq_written : escaped = written (2 * · + 1) := by
  funext p
  cases p <;> rfl

theorem kept_tag (slashes : Nat) (body : List Char) :
    (tag slashes body).kept = (tag slashes body).written id := by
  have hhalf : (2 * slashes + 1) / 2 = slashes := by omega
  have hodd : (2 * slashes + 1) % 2 = 1 := by omega
  simp [kept, retag, shown, written, hhalf, hodd]

theorem length_kept_le (p : Piece) : p.kept.length ≤ (p.written id).length := by
  cases p with
  | plain c => exact Nat.le_refl _
  | bracket slashes => simp [kept, retag, shown, written, backslashes]
  | tag slashes body => exact Nat.le_of_eq (congrArg List.length (kept_tag slashes body))

theorem kept_eq_iff (p : Piece) : p.kept = p.written id ↔ ∀ k, p ≠ bracket (k + 1) := by
  cases p with
  | plain c => simp [kept, retag, shown, written]
  | tag slashes body => simp [kept_tag]
  | bracket slashes =>
      cases slashes with
      | zero => simp [kept, retag, shown, written, backslashes]
      | succ slashes =>
          refine iff_of_false ?_ fun h => h slashes rfl
          intro heq
          have hlength := congrArg List.length heq
          simp [kept, retag, shown, written, backslashes] at hlength

end Piece

theorem length_flatMap_kept_le (ps : List Piece) :
    (ps.flatMap Piece.kept).length ≤ (ps.flatMap (Piece.written id)).length := by
  induction ps with
  | nil => exact Nat.le_refl _
  | cons p ps ih =>
      rw [List.flatMap_cons, List.flatMap_cons, List.length_append, List.length_append]
      exact Nat.add_le_add p.length_kept_le ih

/-- All of the pieces are kept if each of them is. -/
theorem flatMap_kept_eq_iff (ps : List Piece) :
    ps.flatMap Piece.kept = ps.flatMap (Piece.written id) ↔ ∀ k, Piece.bracket (k + 1) ∉ ps := by
  induction ps with
  | nil => simp
  | cons p ps ih =>
      have hp := p.length_kept_le
      have hps := length_flatMap_kept_le ps
      have happend : p.kept ++ ps.flatMap Piece.kept =
          p.written id ++ ps.flatMap (Piece.written id) ↔
          p.kept = p.written id ∧ ps.flatMap Piece.kept = ps.flatMap (Piece.written id) := by
        constructor
        · intro heq
          have hlength := congrArg List.length heq
          rw [List.length_append, List.length_append] at hlength
          exact List.append_inj heq (by omega)
        · rintro ⟨h, h'⟩
          rw [h, h']
      rw [List.flatMap_cons, List.flatMap_cons, happend, p.kept_eq_iff, ih]
      simp [forall_and, eq_comm]

/-- What is kept of a text that does not end in backslashes, after it was escaped. -/
def keptText (u : List Char) : List Char := (pieces 0 u).flatMap Piece.kept

section Shown

variable {u : List Char} {e : Nat}

theorem keptText_eq_iff (u : List Char) : keptText u = u ↔ ¬ Slashed u := by
  have hslashed : Slashed u ↔ _ := slashed_iff 0 u
  have hwritten : (pieces 0 u).flatMap (Piece.written id) = u := rewritten_id 0 u
  have hkept := flatMap_kept_eq_iff (pieces 0 u)
  rw [hwritten] at hkept
  rw [keptText, hkept, hslashed, not_exists]

theorem length_keptText_le (u : List Char) : (keptText u).length ≤ u.length := by
  have hle := length_flatMap_kept_le (pieces 0 u)
  have hwritten : (pieces 0 u).flatMap (Piece.written id) = u := rewritten_id 0 u
  rwa [hwritten] at hle

theorem pieces_append (hu : EndsPlain u) (hs : Separate s) :
    pieces 0 (u ++ s) = pieces 0 u ++ pieces 0 s := by
  have happend := @pieces_rewritten_append s id hs 0 u hu
  have hretag : Piece.retag id = id := by
    funext p
    cases p <;> rfl
  rw [rewritten_id, hretag, List.map_id] at happend
  exact happend

theorem pieces_append_backslashes (hu : EndsPlain u) (e : Nat) :
    pieces 0 (u ++ backslashes e) = pieces 0 u ++ (backslashes e).map .plain := by
  have hs := separate_nil.backslashes e
  have hpieces := pieces_backslashes 0 e []
  rw [List.append_nil] at hs hpieces
  rw [pieces_append hu hs, hpieces, Nat.zero_add, pieces_nil]

theorem slashed_append_backslashes (hu : EndsPlain u) (e : Nat) :
    Slashed (u ++ backslashes e) ↔ Slashed u := by
  have hslashed (text : List Char) : Slashed text ↔ _ := slashed_iff 0 text
  rw [hslashed, hslashed, pieces_append_backslashes hu]
  simp

/-- The number of backslashes that are written for those at the end of a text. -/
def guarded (e : Nat) : Nat := if e = 1 then 2 else e

theorem guardEnd_append {x : List Char} (hx : EndsPlain x) (e : Nat) :
    guardEnd (x ++ backslashes e) = x ++ backslashes (guarded e) := by
  have hreverse : (x ++ backslashes e).reverse = backslashes e ++ x.reverse := by
    rw [List.reverse_append, backslashes, List.reverse_replicate]
  have hhead : ∀ t, x.reverse ≠ '\\' :: t := by
    intro t heq
    apply hx
    rw [← List.head?_reverse, heq]
    rfl
  rw [guardEnd, hreverse]
  match e with
  | 0 =>
      split
      · next t heq => exact absurd heq (hhead _)
      · next t _ heq => exact absurd heq (hhead t)
      · rfl
  | 1 =>
      split
      · next t heq => exact absurd (List.cons.inj heq).2 (hhead t)
      · exact List.append_assoc _ _ _
      · next hne => exact absurd rfl (hne x.reverse)
  | e + 2 =>
      have hguarded : guarded (e + 2) = e + 2 := if_neg (by omega)
      rw [hguarded]
      rfl

theorem escape_append (hu : EndsPlain u) (e : Nat) :
    escape (u ++ backslashes e) = rewritten (2 * · + 1) 0 u ++ backslashes (guarded e) := by
  rw [escape, pieces_append_backslashes hu, List.flatMap_append, Piece.escaped_eq_written,
    flatMap_plain, ← rewritten, guardEnd_append (endsPlain_rewritten 0 u hu)]

/-- Escaping a text keeps its pieces up to the backslashes at its end. -/
theorem shown_escape_append (hu : EndsPlain u) (e : Nat) (hs : Separate s) :
    shown (escape (u ++ backslashes e) ++ s) =
      keptText u ++ shown (backslashes (guarded e) ++ s) := by
  rw [escape_append hu, List.append_assoc, shown,
    pieces_rewritten_append (hs.backslashes _) 0 u hu, List.flatMap_append, List.flatMap_map]
  rfl

theorem shown_backslashes (n : Nat) : shown (backslashes n) = backslashes n := by
  have hpieces := pieces_backslashes 0 n []
  rw [List.append_nil, Nat.zero_add, pieces_nil] at hpieces
  rw [shown, hpieces, List.flatMap_map]
  exact List.flatMap_singleton' _

theorem shown_backslashes_tag (h : IsTag body) (n : Nat) :
    shown (backslashes n ++ '[' :: (body ++ [']'])) =
      backslashes (n / 2) ++ if n % 2 = 1 then '[' :: body ++ [']'] else [] := by
  rw [shown, pieces_backslashes, Nat.zero_add, pieces_tag h, pieces_nil]
  simp [Piece.shown, backslashes]

/-- An escaped text is shown as it is, unless a backslash stands in front of a bracket that
begins no tag, or a single one at its end. -/
theorem shown_escape_eq_iff (text : List Char) :
    shown (escape text) = text ↔ ¬ Slashed text ∧ endSlashes text ≠ 1 := by
  obtain ⟨u, e, rfl, hu, he⟩ := exists_append_endSlashes text
  have hshown := shown_escape_append hu e separate_nil
  rw [List.append_nil, List.append_nil, shown_backslashes] at hshown
  rw [hshown, he, slashed_append_backslashes hu, ← keptText_eq_iff]
  by_cases hone : e = 1
  · -- The doubled backslash would have to be one of the text in front of the last.
    subst hone
    refine iff_of_false ?_ fun h => h.2 rfl
    intro heq
    have hlast : keptText u ++ ['\\'] ++ ['\\'] = u ++ ['\\'] := by
      rw [List.append_assoc]
      exact heq
    apply hu
    rw [← List.append_cancel_right hlast, List.getLast?_append]
    rfl
  · rw [guarded, if_neg hone, List.append_left_inj]
    exact ⟨fun h => ⟨h, hone⟩, And.left⟩

/-- In front of a closing tag backslashes at the end are read in pairs, so no text that ends
in more than one is shown as it is. -/
theorem shown_escape_closing_eq_iff (hbody : IsTag body) (text : List Char) :
    shown (escape text ++ '[' :: (body ++ [']'])) = text ↔
      ¬ Slashed text ∧ endSlashes text ≤ 1 := by
  obtain ⟨u, e, rfl, hu, he⟩ := exists_append_endSlashes text
  rw [shown_escape_append hu e (separate_bracket _), shown_backslashes_tag hbody, he,
    slashed_append_backslashes hu, ← keptText_eq_iff]
  by_cases hle : e ≤ 1
  · have hhalf : guarded e / 2 = e ∧ guarded e % 2 ≠ 1 := by
      unfold guarded
      split <;> omega
    rw [hhalf.1, if_neg hhalf.2, List.append_nil, List.append_left_inj]
    exact ⟨fun h => ⟨h, hle⟩, And.left⟩
  · refine iff_of_false ?_ fun h => hle h.2
    rw [guarded, if_neg (by omega)]
    intro heq
    by_cases hodd : e % 2 = 1
    · -- What is shown ends in a bracket, and the text in a backslash.
      have htext : (u ++ backslashes e).getLast? = some '\\' := by
        rw [List.getLast?_append, backslashes, List.getLast?_replicate, if_neg (by omega)]
        rfl
      rw [← heq, if_pos hodd, ← List.append_assoc, ← List.append_assoc,
        List.getLast?_concat] at htext
      exact absurd htext (by decide)
    · -- What is shown is too short.
      have hlength := congrArg List.length heq
      have hkept := length_keptText_le u
      rw [if_neg hodd] at hlength
      simp only [List.length_append, List.length_nil, backslashes, List.length_replicate]
        at hlength
      omega

/-- A tag in front of a label is not shown. -/
theorem shown_tag (h : IsTag body) (label : List Char) :
    shown ('[' :: (body ++ ']' :: label)) = shown label := by
  rw [shown, pieces_tag h]
  rfl

theorem shown_plain (hslash : c ≠ '\\') (hbracket : c ≠ '[') (label : List Char) :
    shown (c :: label) = c :: shown label := by
  rw [shown, pieces_plain hslash hbracket]
  rfl

theorem styled_eq (style : String) (text : List Char) :
    styled style text =
      '[' :: (style.toList ++ ']' :: (text ++ '[' :: ('/' :: style.toList ++ [']']))) := by
  simp [styled]

/-- A closing tag is a tag. -/
theorem IsTag.closing (h : IsTag body) : IsTag ('/' :: body) :=
  ⟨⟨'/', body, rfl, rfl⟩, List.forall_mem_cons.mpr ⟨by decide, h.plain⟩⟩

/-- An escaped text in a style is shown as it is, unless a backslash stands in front of a
bracket that begins no tag, or more than one at its end. -/
theorem shown_styled_escape_eq_iff {style : String} (h : IsTag style.toList) (text : List Char) :
    shown (styled style (escape text)) = text ↔ ¬ Slashed text ∧ endSlashes text ≤ 1 := by
  rw [styled_eq, shown_tag h]
  exact shown_escape_closing_eq_iff h.closing text

end Shown

end LineCalc.Markup
