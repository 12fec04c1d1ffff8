import Mathlib.Tactic.Ring
import LineCalc.Proofs.Composition
import LineCalc.Proofs.FailingLines
import LineCalc.Proofs.NumberBits
import LineCalc.Proofs.Rounding

/-!
# Results as lines

The text of a result is a line again. A text in positional notation is one number, and
the number that is read is the one that was written, since the digits are a decimal in
the window of its magnitude. Every other text fails: lines have no sign in front of an
operand, the letter of an exponent is a name of its own behind a number, and the words
for the numbers that are not finite are names that nothing binds.
-/

namespace LineCalc

namespace Lexer

open Decimal.Literal

theorem IsNumber.exists_cons {text : List Char} (h : IsNumber text) :
    ∃ c tail, text = c :: tail ∧ isDigit c = true := by
  obtain ⟨digits, hne, hdigits, htext⟩ := h
  obtain ⟨c, tail, rfl⟩ := List.exists_cons_of_ne_nil hne
  refine ⟨c, ?_⟩
  obtain rfl | ⟨fraction, -, rfl⟩ := htext
  · exact ⟨tail, rfl, hdigits c List.mem_cons_self⟩
  · exact ⟨_, rfl, hdigits c List.mem_cons_self⟩

end Lexer

namespace Decimal

open Binary64 Lexer Literal

/-- Digits with a point between them that stand for `digits * 10 ^ -places`. -/
inductive Denotes : List Char → (digits places : Nat) → Prop
  | point {whole fraction : List Char} (hne : whole ≠ [])
      (hwhole : ∀ c ∈ whole, isDigit c = true) (hfraction : ∀ c ∈ fraction, isDigit c = true) :
      Denotes (whole ++ '.' :: fraction) (Nat.ofDigitChars 10 (whole ++ fraction) 0)
        fraction.length

theorem Denotes.isNumber {text : List Char} {digits places : Nat}
    (h : Denotes text digits places) : IsNumber text := by
  obtain ⟨hne, hwhole, hfraction⟩ := h
  exact ⟨_, hne, hwhole, Or.inr ⟨_, hfraction, rfl⟩⟩

theorem Denotes.decimal?_eq {text : List Char} {digits places : Nat}
    (h : Denotes text digits places) : decimal? text = some (digits, -(places : Int)) := by
  obtain ⟨hne, hwhole, hfraction⟩ := h
  rename_i whole fraction
  obtain ⟨htake, hdrop⟩ := takeWhile_dropWhile_append hwhole (isDigit_head_point fraction)
  obtain ⟨htake', hdrop'⟩ := @takeWhile_dropWhile_append _ isDigit fraction [] hfraction (by simp)
  rw [List.append_nil] at htake' hdrop'
  simp [decimal?, htake, hdrop, htake', hdrop', hne, exponent?]

/-- The words for numbers that are not finite have no point. -/
theorem Denotes.unsigned?_eq {text : List Char} {digits places : Nat}
    (h : Denotes text digits places) (negative : Bool) :
    unsigned? negative text =
      some (ofWord negative (nearestDecimal digits (-(places : Int)))) := by
  have hpoint : '.' ∈ text.map Char.toLower := by
    apply List.mem_map.mpr
    refine ⟨'.', ?_, rfl⟩
    cases h
    exact List.mem_append_right _ List.mem_cons_self
  have hword : ∀ word : List Char, '.' ∉ word → text.map Char.toLower ≠ word :=
    fun word hnot heq => hnot (heq ▸ hpoint)
  simp only [unsigned?, hword "inf".toList (by decide), hword "infinity".toList (by decide),
    hword "nan".toList (by decide), or_self, if_false, h.decimal?_eq, Option.map_some]

theorem isDigit_zero : isDigit '0' = true := by decide

theorem isDigit_replicate_zero (n : Nat) : ∀ c ∈ List.replicate n '0', isDigit c = true := by
  intro c hc
  rw [List.eq_of_mem_replicate hc]
  exact isDigit_zero

/-- Zeros at the end of digits multiply by powers of ten. -/
theorem ofDigitChars_append_zeros (ds : List Char) (n : Nat) :
    Nat.ofDigitChars 10 (ds ++ List.replicate n '0') 0 = Nat.ofDigitChars 10 ds 0 * 10 ^ n := by
  rw [Nat.ofDigitChars_append, Nat.ofDigitChars_replicate_zero, Nat.mul_comm]

/-- Zeros in front of digits do not count. -/
theorem ofDigitChars_zeros_append (ds : List Char) (n : Nat) :
    Nat.ofDigitChars 10 (List.replicate n '0' ++ ds) 0 = Nat.ofDigitChars 10 ds 0 := by
  rw [Nat.ofDigitChars_append, Nat.ofDigitChars_replicate_zero, Nat.mul_zero]

section Positional

variable {ds : List Char} {m n : Nat}

theorem wholeText_of_lt {place : Nat} (h : place + 1 < ds.length) :
    wholeText ds place = ds.take (place + 1) ++ '.' :: ds.drop (place + 1) := by
  have hzeros : place + 1 - ds.length = 0 := by omega
  have hfraction : (ds.drop (place + 1)).isEmpty = false := by
    simpa using h
  simp [wholeText, hzeros, hfraction]

theorem wholeText_of_le {place : Nat} (h : ds.length ≤ place + 1) :
    wholeText ds place = ds ++ List.replicate (place + 1 - ds.length) '0' ++ '.' :: ['0'] := by
  simp [wholeText, List.take_of_length_le h, List.drop_of_length_le h]

theorem denotes_wholeText (hne : ds ≠ []) (hdigits : ∀ c ∈ ds, isDigit c = true) (place : Nat)
    (hplace : (m : Int) - n = place + 1 - ds.length) :
    ∃ digits places, Denotes (wholeText ds place) digits (places + 1) ∧
      digits * Nat.pow 10 n =
        Nat.ofDigitChars 10 ds 0 * Nat.pow 10 m * Nat.pow 10 (places + 1) := by
  by_cases hlong : place + 1 < ds.length
  · obtain ⟨places, hplaces⟩ : ∃ places, ds.length - (place + 1) = places + 1 :=
      ⟨ds.length - (place + 1) - 1, by omega⟩
    have hdenotes := @Denotes.point (ds.take (place + 1)) (ds.drop (place + 1)) (by simp [hne])
      (fun c hc => hdigits c (List.mem_of_mem_take hc))
      (fun c hc => hdigits c (List.mem_of_mem_drop hc))
    rw [List.take_append_drop, List.length_drop, hplaces, ← wholeText_of_lt hlong] at hdenotes
    refine ⟨_, places, hdenotes, ?_⟩
    have hn : n = m + (places + 1) := by omega
    simp only [Nat.pow_eq, hn, pow_add, Nat.mul_assoc]
  · have hshort : ds.length ≤ place + 1 := Nat.le_of_not_lt hlong
    have hdenotes := @Denotes.point (ds ++ List.replicate (place + 1 - ds.length) '0') ['0']
      (by simp [hne]) (List.forall_mem_append.mpr ⟨hdigits, isDigit_replicate_zero _⟩)
      (by simp [isDigit_zero])
    rw [← wholeText_of_le hshort, List.append_assoc, ← List.replicate_succ',
      ofDigitChars_append_zeros] at hdenotes
    refine ⟨_, 0, hdenotes, ?_⟩
    have hm : m = place + 1 - ds.length + n := by omega
    simp only [Nat.pow_eq, hm]
    ring

theorem denotes_fractionText (hdigits : ∀ c ∈ ds, isDigit c = true) (hne : ds ≠ []) (gap : Nat)
    (hplace : (m : Int) - n = Int.negSucc gap + 1 - ds.length) :
    ∃ digits places, Denotes (fractionText ds gap) digits (places + 1) ∧
      digits * Nat.pow 10 n =
        Nat.ofDigitChars 10 ds 0 * Nat.pow 10 m * Nat.pow 10 (places + 1) := by
  have hlength := List.length_pos_iff.mpr hne
  obtain ⟨places, hplaces⟩ : ∃ places, gap + ds.length = places + 1 :=
    ⟨gap + ds.length - 1, by omega⟩
  have hdenotes := @Denotes.point ['0'] (List.replicate gap '0' ++ ds) (by simp)
    (by simp [isDigit_zero]) (List.forall_mem_append.mpr ⟨isDigit_replicate_zero gap, hdigits⟩)
  rw [List.length_append, List.length_replicate, hplaces] at hdenotes
  refine ⟨_, places, hdenotes, ?_⟩
  have hn : n = m + (places + 1) := by omega
  rw [← List.append_assoc, ← List.replicate_one, List.replicate_append_replicate,
    ofDigitChars_zeros_append]
  simp only [Nat.pow_eq, hn, pow_add, Nat.mul_assoc]

/-- In positional notation the digits keep their places. -/
theorem denotes_positionalText (hne : ds ≠ []) (hdigits : ∀ c ∈ ds, isDigit c = true)
    {place : Int} (hplace : (m : Int) - n = place + 1 - ds.length) :
    ∃ digits places, Denotes (positionalText ds place) digits (places + 1) ∧
      digits * Nat.pow 10 n =
        Nat.ofDigitChars 10 ds 0 * Nat.pow 10 m * Nat.pow 10 (places + 1) := by
  cases place with
  | ofNat place => exact denotes_wholeText hne hdigits place hplace
  | negSucc gap => exact denotes_fractionText hdigits hne gap hplace

end Positional

theorem exists_append_zeros (ds : List Char) :
    ∃ n, ds = dropTrailingZeros ds ++ List.replicate n '0' :=
  ⟨_, append_end_run '0' ds⟩

theorem isDigit_of_mem_toDigits {n : Nat} : ∀ c ∈ Nat.toDigits 10 n, isDigit c = true :=
  fun _ hc => Nat.isDigit_of_mem_toDigits (by decide) (by decide) hc

/-- A layout writes the digits of a decimal without the zeros at their end, in positional
or in exponent notation. -/
theorem layout_text_cases (layout : Layout) {decimal : Scaled} (hpos : decimal.digits ≠ 0) :
    ∃ ds, ∃ zeros : Nat, ∃ place : Int, ds ≠ [] ∧ (∀ c ∈ ds, isDigit c = true) ∧
      decimal.digits = Nat.ofDigitChars 10 ds 0 * Nat.pow 10 zeros ∧
      place + 1 - ds.length = zeros + decimal.exponent ∧
      (layout.text decimal = positionalText ds place ∨
        layout.text decimal = scientificText layout.exponentWidth ds place) := by
  obtain ⟨zeros, hall⟩ := exists_append_zeros (Nat.toDigits 10 decimal.digits)
  have hvalue : decimal.digits =
      Nat.ofDigitChars 10 (dropTrailingZeros (Nat.toDigits 10 decimal.digits)) 0 *
        Nat.pow 10 zeros := by
    rw [Nat.pow_eq, ← ofDigitChars_append_zeros, ← hall, Nat.ofDigitChars_ten_toDigits]
  have hlength := congrArg List.length hall
  rw [List.length_append, List.length_replicate] at hlength
  refine ⟨dropTrailingZeros (Nat.toDigits 10 decimal.digits), zeros,
    (Nat.toDigits 10 decimal.digits).length - 1 + decimal.exponent, ?_, ?_, hvalue, by omega, ?_⟩
  · intro hnil
    rw [hnil] at hvalue
    exact hpos (by simpa using hvalue)
  · intro c hc
    apply isDigit_of_mem_toDigits c
    rw [hall]
    exact List.mem_append_left _ hc
  · exact ite_eq_or_eq _ _ _

theorem exists_scientificText {ds : List Char} (hne : ds ≠ [])
    (hdigits : ∀ c ∈ ds, isDigit c = true) (width : Nat) (place : Int) :
    ∃ mantissa sign exponent, scientificText width ds place = mantissa ++ 'e' :: sign :: exponent ∧
      IsNumber mantissa ∧ IsMark sign ∧ IsNumber exponent := by
  have hsign : IsMark (if place < 0 then '-' else '+') := by
    split
    · exact ⟨.minus, by decide⟩
    · exact ⟨.plus, by decide⟩
  have hexponent : IsNumber (List.replicate (width - (Nat.toDigits 10 place.natAbs).length) '0' ++
      Nat.toDigits 10 place.natAbs) := by
    refine ⟨_, by simp [Nat.toDigits_ne_nil], ?_, Or.inl rfl⟩
    exact List.forall_mem_append.mpr ⟨isDigit_replicate_zero _, isDigit_of_mem_toDigits⟩
  match ds, hne, hdigits with
  | [d], hne, hdigits =>
      have hmantissa : IsNumber [d] := ⟨[d], hne, hdigits, Or.inl rfl⟩
      exact ⟨_, _, _, rfl, hmantissa, hsign, hexponent⟩
  | d :: c :: fraction, _, hdigits =>
      obtain ⟨hd, hfraction⟩ := List.forall_mem_cons.mp hdigits
      have hmantissa : IsNumber (d :: '.' :: c :: fraction) :=
        ⟨[d], by simp, by simpa using hd, Or.inr ⟨_, hfraction, rfl⟩⟩
      exact ⟨_, _, _, rfl, hmantissa, hsign, hexponent⟩

/-- How the text of a magnitude is put together. Only positional notation stands for the
number itself. -/
inductive Spells : Magnitude → List Char → Prop
  | positional {significand shift digits places : Nat} {text : List Char}
      (h : Denotes text digits places)
      (hvalue : nearestDecimal digits (-(places : Int)) = shift * leadingBit + significand) :
      Spells (.finite significand shift) text
  | scientific {significand shift : Nat} {mantissa exponent : List Char} {sign : Char}
      (hmantissa : IsNumber mantissa) (hsign : IsMark sign) (hexponent : IsNumber exponent) :
      Spells (.finite significand shift) (mantissa ++ 'e' :: sign :: exponent)
  | infinite : Spells .infinite "inf".toList
  | undefined : Spells .undefined "nan".toList

theorem Spells.head?_ne {m : Magnitude} {text : List Char} (h : Spells m text) :
    text.head? ≠ some '-' := by
  have hnumber {cs rest : List Char} (hcs : IsNumber cs) : (cs ++ rest).head? ≠ some '-' := by
    obtain ⟨c, tail, rfl, hdigit⟩ := hcs.exists_cons
    rintro ⟨⟩
    exact absurd hdigit (by decide)
  cases h with
  | positional h _ =>
      rw [← List.append_nil text]
      exact hnumber h.isNumber
  | scientific hmantissa _ _ => exact hnumber hmantissa
  | infinite => decide
  | undefined => decide

/-- The shortest decimal is written so that its magnitude is read. -/
theorem spells_shortest {significand shift : Nat} (h : Representable significand shift)
    (hpos : 0 < significand) :
    Spells (.finite significand shift) (resultLayout.text (shortest significand shift)) := by
  obtain ⟨found, exponent, hshortest, hcontains⟩ := contains_shortest hpos shift
  have hfound : found ≠ 0 := by
    rintro rfl
    have hunit := unit_le_of_contains hpos hcontains
    rw [Nat.zero_mul] at hunit
    exact Nat.not_lt.mpr hunit unit_pos
  rw [hshortest]
  obtain ⟨ds, zeros, place, hne, hds, hvalue, hplace, htext | htext⟩ :=
    @layout_text_cases resultLayout ⟨found, (exponent : Int) - 1074⟩ hfound
  · dsimp only at hvalue hplace
    -- A name keeps the power of ten from being computed.
    obtain ⟨finest, hfinest⟩ : ∃ finest : Nat, finest = 1074 := ⟨1074, rfl⟩
    have hplace' : ((zeros + exponent : Nat) : Int) - finest = place + 1 - ds.length := by omega
    obtain ⟨digits, places, hdenotes, hequal⟩ := denotes_positionalText hne hds hplace'
    rw [htext]
    refine .positional hdenotes
      (nearestDecimal_of_contains h hpos hfinest (hequal.trans ?_) hcontains)
    simp only [hvalue, Nat.pow_eq]
    ring
  · obtain ⟨mantissa, sign, exponent, hscientific, hmantissa, hsign, hexponent⟩ :=
      exists_scientificText hne hds resultLayout.exponentWidth place
    rw [htext, hscientific]
    exact .scientific hmantissa hsign hexponent

theorem spells_zero : Spells (.finite 0 0) "0.0".toList :=
  .positional (@Denotes.point ['0'] ['0'] (by decide) (by simp [isDigit_zero])
    (by simp [isDigit_zero])) rfl

theorem spells_magnitudeText {m : Magnitude}
    (h : ∀ significand shift, m = .finite significand shift → Representable significand shift) :
    Spells m (magnitudeText m) := by
  cases m with
  | undefined => exact .undefined
  | infinite => exact .infinite
  | finite significand shift =>
      have hrepresentable := h significand shift rfl
      cases significand with
      | zero =>
          obtain rfl : shift = 0 := by
            apply hrepresentable.shift_eq_zero_or.resolve_right
            decide
          exact spells_zero
      | succ significand =>
          rw [magnitudeText]
          · exact spells_shortest hrepresentable (Nat.succ_pos significand)
          · exact Nat.succ_ne_zero significand

end Decimal

namespace Binary64

theorem toBits_mod_lt (x : Float) : x.toBits.toNat % signBit < signBit :=
  Nat.mod_lt _ (by decide)

theorem representable_of_parts {x : Float} {significand shift : Nat}
    (h : (parts x).magnitude = .finite significand shift) : Representable significand shift :=
  (representable_of_magnitudeOfWord (toBits_mod_lt x) h).1

/-- A number without sign is the one with the word of its magnitude. -/
theorem ofWord_of_parts {x : Float} {significand shift : Nat}
    (hsign : (parts x).negative = false) (h : (parts x).magnitude = .finite significand shift) :
    ofWord false (shift * leadingBit + significand) = x := by
  have hlt : x.toBits.toNat < signBit := Nat.lt_of_not_le (of_decide_eq_false hsign)
  have hword := (representable_of_magnitudeOfWord (toBits_mod_lt x) h).2
  rw [Nat.mod_eq_of_lt hlt] at hword
  have hfinite : isFinite x = true := by simp only [isFinite, h]
  rw [← hword, ofWord, if_neg Bool.false_ne_true, UInt64.ofNat_toNat]
  exact ofBits_toBits hfinite

end Binary64

namespace Lexer

open Decimal.Literal

theorem IsNumber.isLexeme {text : List Char} (h : IsNumber text) (rule : WordRule) :
    IsLexeme rule .number text := by
  obtain ⟨c, tail, rfl, hdigit⟩ := h.exists_cons
  have htail := (@numberTail_append c tail [] h (by simp)).2
  rw [List.append_nil] at htail
  exact ⟨c, tail, rfl, isBlank_of_isDigit hdigit, by simp [lexeme?, hdigit, htail]⟩

/-- A number is one token in front of whatever does not make it longer. -/
theorem Splits.number {rule : WordRule} {pos : Nat} {text rest : List Char} {w : List Token}
    (h : IsNumber text) (hstop : ∀ d ∈ rest.head?, ¬ IsNumber (text ++ [d]))
    (hrest : Splits rule (pos + text.length) rest w) :
    Splits rule pos (text ++ rest) (⟨.number, String.ofList text, pos⟩ :: w) := by
  obtain ⟨c, tail, rfl, hdigit⟩ := h.exists_cons
  have htail := (numberTail_append h hstop).2
  exact .token (isBlank_of_isDigit hdigit) (by simp [lexeme?, hdigit, htail]) hrest

/-- The letter of an exponent ends the number before it, and is a name in front of a mark. -/
theorem Splits.exponent {rule : WordRule} {pos : Nat} {mantissa exponent : List Char}
    {sign : Char} (hmantissa : IsNumber mantissa) (hsign : IsMark sign)
    (hexponent : IsNumber exponent) :
    ∃ w, Splits rule pos (mantissa ++ 'e' :: sign :: exponent)
      (⟨.number, String.ofList mantissa, pos⟩ ::
        ⟨.ident, "e", (pos + mantissa.length : Nat)⟩ :: w) := by
  obtain ⟨kind, hmark⟩ := hsign
  have hletter : IsLexeme rule .ident ['e'] := by
    refine ⟨'e', [], rfl, by decide, ?_⟩
    cases rule <;> decide
  have hstop : ∀ d ∈ ('e' :: sign :: exponent).head?, ¬ IsNumber (mantissa ++ [d]) := by
    rintro d ⟨⟩ hlonger
    exact @not_mem_of_isNumber _ 'e' hlonger (by decide) (by decide) (by simp)
  have hname := (@Splits.ofLexeme rule (pos + mantissa.length) .ident ['e'] hletter).append
    (separated_mark hmark exponent) (.mark hmark (.ofLexeme (hexponent.isLexeme rule)))
  exact ⟨_, .number hmantissa hstop hname⟩

theorem isLexeme_inf (rule : WordRule) : IsLexeme rule .ident "inf".toList := by
  refine ⟨'i', ['n', 'f'], rfl, by decide, ?_⟩
  cases rule <;> decide

theorem isLexeme_nan (rule : WordRule) : IsLexeme rule .ident "nan".toList := by
  refine ⟨'n', ['a', 'n'], rfl, by decide, ?_⟩
  cases rule <;> decide

/-- The text of a magnitude is split into tokens. -/
theorem exists_splits_of_spells {rule : WordRule} {m : Binary64.Magnitude} {text : List Char}
    (h : Decimal.Spells m text) (pos : Nat) : ∃ w, Splits rule pos text w := by
  cases h with
  | positional h _ => exact ⟨_, .ofLexeme (h.isNumber.isLexeme rule)⟩
  | scientific hmantissa hsign hexponent =>
      obtain ⟨w, hw⟩ := Splits.exponent hmantissa hsign hexponent
      exact ⟨_, hw⟩
  | infinite => exact ⟨_, .ofLexeme (isLexeme_inf rule)⟩
  | undefined => exact ⟨_, .ofLexeme (isLexeme_nan rule)⟩

end Lexer

open Binary64 Lexer Grammar Decimal.Literal

theorem literalValue_of_denotes {text : String} {digits places : Nat}
    (h : Decimal.Denotes text.toList digits places) :
    literalValue text = .ok (ofWord false (nearestDecimal digits (-(places : Int)))) := by
  simp only [literalValue, read?_of_isNumber h.isNumber, h.unsigned?_eq]

namespace Line

variable {settings : Settings} {source : String}

/-- A name alone is not bound. -/
theorem evaluate_name (h : IsLexeme settings.wordRule .ident source.toList) :
    evaluate settings source = .error (.unplaced (.eval (.undefinedName source))) :=
  evaluate_expression (program_of_reads (Reads.reference h).ofPrimary (Nat.zero_le _))

theorem evaluate_of_denotes {digits places : Nat}
    (h : Decimal.Denotes source.toList digits places) :
    evaluate settings source =
      .ok (ofWord false (nearestDecimal digits (-(places : Int)))) := by
  have hreads := Reads.literal (h.isNumber.isLexeme settings.wordRule)
  rw [evaluate_expression (program_of_reads hreads.ofPrimary (Nat.zero_le _))]
  simp only [Expr.value, Bindings.semantics, literalValue_of_denotes h]

/-- A line whose tokens are rejected has no value. -/
theorem evaluate_of_rejects {u v : List Token} {t : Token} {x : ParseError}
    (h : Splits settings.wordRule 0 source.toList (u ++ t :: v)) (hx : RejectsProgram u t x) :
    evaluate settings source = .error (.ofError source (.parse x)) := by
  simp only [evaluate, program_eq_error h hx]

/-- A line cannot begin with a sign. -/
theorem evaluate_minus {cs : List Char} {w : List Token} (hsource : source.toList = '-' :: cs)
    (hw : Splits settings.wordRule 1 cs w) :
    evaluate settings source =
      .error (.ofError source (.parse (.unexpectedToken ⟨.minus, "-", 0⟩ .operand))) := by
  have hmark : ('-', TokenKind.minus) ∈ marks := by decide
  have hsplits : Splits settings.wordRule 0 source.toList ([] ++ ⟨.minus, "-", 0⟩ :: w) := by
    rw [hsource]
    exact .mark hmark hw
  apply evaluate_of_rejects hsplits
  apply RejectsProgram.result
  · exact .first (.first (.operand (by decide) (by decide) (by decide) (by decide)))
  · intro _
    decide

/-- The letter of an exponent is left over behind the number before it. -/
theorem evaluate_exponent {mantissa exponent : List Char} {sign : Char}
    (hsource : source.toList = mantissa ++ 'e' :: sign :: exponent)
    (hmantissa : IsNumber mantissa) (hsign : IsMark sign) (hexponent : IsNumber exponent) :
    evaluate settings source = .error (.ofError source (.parse
      (.unexpectedToken ⟨.ident, "e", mantissa.length⟩ .afterExpression))) := by
  obtain ⟨w, hw⟩ := @Splits.exponent settings.wordRule 0 mantissa exponent sign hmantissa hsign
    hexponent
  rw [← hsource, Nat.zero_add] at hw
  apply @evaluate_of_rejects settings source [_] w _ _ hw
  apply RejectsProgram.leftover (.ofNumber rfl) (Nat.zero_le _)
  · rintro l - op ⟨⟩
  · rintro ⟨⟩

/-- What a line is that spells a magnitude, if the number without sign is `x`. -/
theorem evaluate_of_spells {m : Magnitude} {x : Float} (h : Decimal.Spells m source.toList)
    (hx : ∀ significand shift, m = .finite significand shift →
      ofWord false (shift * leadingBit + significand) = x) :
    evaluate settings source =
      if 'e' ∈ source.toList then
        .error (.ofError source (.parse
          (.unexpectedToken ⟨.ident, "e", source.toList.idxOf 'e'⟩ .afterExpression)))
      else if source = "inf" ∨ source = "nan" then
        .error (.unplaced (.eval (.undefinedName source)))
      else .ok x := by
  generalize hsource : source.toList = text at h
  cases h with
  | @positional significand shift digits places text h hvalue =>
      rw [← hsource] at h
      have hletter {c : Char} (hdigit : isDigit c = false) (hpoint : c ≠ '.') :
          c ∉ source.toList := not_mem_of_isNumber h.isNumber hdigit hpoint
      have hword : ¬ (source = "inf" ∨ source = "nan") := by
        rintro (rfl | rfl)
        · exact @hletter 'n' (by decide) (by decide) (by decide)
        · exact @hletter 'n' (by decide) (by decide) (by decide)
      rw [← hsource, if_neg (hletter (by decide) (by decide)), if_neg hword,
        evaluate_of_denotes h, hvalue, hx significand shift rfl]
  | @scientific significand shift mantissa exponent sign hmantissa hsign hexponent =>
      have hletter : 'e' ∉ mantissa := not_mem_of_isNumber hmantissa (by decide) (by decide)
      have hindex : (mantissa ++ 'e' :: sign :: exponent).idxOf 'e' = mantissa.length := by
        rw [List.idxOf_append, if_neg hletter, List.idxOf_cons_self, Nat.zero_add]
      rw [if_pos (by simp), hindex, evaluate_exponent hsource hmantissa hsign hexponent]
  | infinite =>
      obtain rfl := String.toList_injective hsource
      rw [if_neg (by decide), if_pos (Or.inl rfl)]
      exact evaluate_name (isLexeme_inf _)
  | undefined =>
      obtain rfl := String.toList_injective hsource
      rw [if_neg (by decide), if_pos (Or.inr rfl)]
      exact evaluate_name (isLexeme_nan _)

/-- The text of a number is a line that has the number as its value, unless it has a sign
in front, an exponent, or is a word; then it fails at the sign, at the letter of the
exponent, or for the name that the word is. -/
theorem evaluate_text (settings : Settings) (x : Float) :
    evaluate settings (Decimal.text x) =
      if (Decimal.text x).toList.head? = some '-' then
        .error (.ofError (Decimal.text x)
          (.parse (.unexpectedToken ⟨.minus, "-", 0⟩ .operand)))
      else if 'e' ∈ (Decimal.text x).toList then
        .error (.ofError (Decimal.text x)
          (.parse (.unexpectedToken ⟨.ident, "e", (Decimal.text x).toList.idxOf 'e'⟩
            .afterExpression)))
      else if Decimal.text x = "inf" ∨ Decimal.text x = "nan" then
        .error (.unplaced (.eval (.undefinedName (Decimal.text x))))
      else .ok x := by
  have hspells := @Decimal.spells_magnitudeText (parts x).magnitude
    fun _ _ h => representable_of_parts h
  by_cases hsigned : ((parts x).negative && (parts x).magnitude != .undefined) = true
  · have htext : (Decimal.text x).toList = '-' :: Decimal.magnitudeText (parts x).magnitude := by
      rw [Decimal.toList_text, Decimal.chars, if_pos hsigned]
    obtain ⟨w, hw⟩ := @exists_splits_of_spells settings.wordRule _ _ hspells 1
    rw [if_pos (by rw [htext]; rfl)]
    exact evaluate_minus htext hw
  · have htext : (Decimal.text x).toList = Decimal.magnitudeText (parts x).magnitude := by
      rw [Decimal.toList_text, Decimal.chars, if_neg hsigned]
    rw [← htext] at hspells
    rw [if_neg hspells.head?_ne]
    apply evaluate_of_spells hspells
    intro significand shift hfinite
    apply ofWord_of_parts _ hfinite
    simpa [hfinite] using hsigned

/-- Each of the notations occurs. -/
example : Decimal.text 0.1 = "0.1" ∧ Decimal.text (-0.0) = "-0.0" ∧ Decimal.text 1e16 = "1e+16" ∧
    Decimal.text (1.0 / 0.0) = "inf" ∧ Decimal.text (0.0 / 0.0) = "nan" := by
  decide +kernel

end Line

end LineCalc
