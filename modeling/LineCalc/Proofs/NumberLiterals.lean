import LineCalc.Evaluation
import LineCalc.Proofs.Locality

/-!
# Number tokens can be evaluated

The reader of numbers accepts more than the lexer: signs, exponents, digits of
other scripts, and blanks around a number. A number token uses none of these, so
every step that treats them leaves its text as it is, and what remains is a
decimal.
-/

namespace LineCalc.Decimal.Literal

open Text Lexer

variable {cs text : List Char} {c : Char}

theorem plainDigit_of_isDigit (h : isDigit c = true) : plainDigit c = c := by
  simp only [isDigit, Bool.and_eq_true, decide_eq_true_eq, Char.le_def,
    UInt32.le_iff_toNat_le] at h
  change 48 ≤ c.toNat ∧ c.toNat ≤ 57 at h
  have hvalue : digitValue? c = some (c.toNat - 48) := by
    have hrange : (48 ≤ c.toNat && c.toNat < 48 + 10) = true := by
      simp only [Bool.and_eq_true, decide_eq_true_eq]
      omega
    simp [digitValue?, zeros, hrange]
  rw [plainDigit, hvalue]
  have hsum : 48 + (c.toNat - 48) = c.toNat := by omega
  simp [hsum]

theorem trim_eq_self {p : Char → Bool} (h : ∀ d ∈ cs, p d = false) : trim p cs = cs := by
  have hdrop : ∀ ds : List Char, (∀ d ∈ ds, p d = false) → ds.dropWhile p = ds := by
    intro ds hds
    cases ds with
    | nil => rfl
    | cons d ds => simp [hds d List.mem_cons_self]
  rw [trim, hdrop cs h, hdrop cs.reverse (by simpa using h), List.reverse_reverse]

theorem dropUnderscores?_eq_some (h : '_' ∉ cs) (afterDigit : Bool) :
    dropUnderscores? afterDigit cs = some cs := by
  induction cs generalizing afterDigit with
  | nil => rfl
  | cons c cs ih =>
      rw [List.mem_cons, not_or] at h
      rw [dropUnderscores?.eq_def]
      simp [Ne.symm h.1, ih h.2]

theorem map_plainDigit_of_isNumber (h : IsNumber text) : text.map plainDigit = text := by
  have hsame : ∀ d ∈ text, plainDigit d = d := by
    intro d hd
    rcases isDigit_or_point_of_isNumber h d hd with hdigit | rfl
    · exact plainDigit_of_isDigit hdigit
    · decide
  simpa using List.map_congr_left hsame

theorem isMargin_of_isNumber (h : IsNumber text) : ∀ d ∈ text, isMargin d = false := by
  intro d hd
  rcases isDigit_or_point_of_isNumber h d hd with hdigit | rfl
  · simp [isMargin, isBlank_of_isDigit hdigit]
  · decide

theorem not_mem_of_isNumber (h : IsNumber text) (hdigit : isDigit c = false) (hpoint : c ≠ '.') :
    c ∉ text := by
  intro hmem
  rcases isDigit_or_point_of_isNumber h c hmem with hc | hc
  · rw [hdigit] at hc
    cases hc
  · exact hpoint hc

theorem splitSign_of_isNumber (h : IsNumber text) : splitSign text = (false, text) := by
  have hminus : '-' ∉ text := not_mem_of_isNumber h (by decide) (by decide)
  have hplus : '+' ∉ text := not_mem_of_isNumber h (by decide) (by decide)
  unfold splitSign
  split
  · exact absurd List.mem_cons_self hminus
  · exact absurd List.mem_cons_self hplus
  · rfl

/-- Behind the digits of a number nothing is left that could be an exponent. -/
theorem decimal?_of_isNumber (h : IsNumber text) : ∃ digits exponent,
    decimal? text = some (digits, exponent) := by
  obtain ⟨digits, hne, hdigits, rfl | ⟨fraction, hfraction, rfl⟩⟩ := h
  · obtain ⟨htake, hdrop⟩ := @takeWhile_dropWhile_append _ isDigit text [] hdigits (by simp)
    rw [List.append_nil] at htake hdrop
    simp [decimal?, htake, hdrop, hne, exponent?]
  · obtain ⟨htake, hdrop⟩ := takeWhile_dropWhile_append hdigits (isDigit_head_point fraction)
    obtain ⟨htake', hdrop'⟩ :=
      @takeWhile_dropWhile_append _ isDigit fraction [] hfraction (by simp)
    rw [List.append_nil] at htake' hdrop'
    simp [decimal?, htake, hdrop, htake', hdrop', hne, exponent?]

theorem unsigned?_of_isNumber (h : IsNumber text) (negative : Bool) :
    ∃ x, unsigned? negative text = some x := by
  obtain ⟨digits, exponent, hdecimal⟩ := decimal?_of_isNumber h
  simp only [unsigned?, hdecimal, Option.map_some]
  split
  · exact ⟨_, rfl⟩
  · split
    · exact ⟨_, rfl⟩
    · exact ⟨_, rfl⟩

end LineCalc.Decimal.Literal

namespace LineCalc

open Lexer Decimal.Literal

/-- Nothing in the text of a number token has to be taken off before it is read. -/
theorem read?_of_isNumber {text : String} (h : IsNumber text.toList) :
    read? text = unsigned? false text.toList := by
  have hunderscore : '_' ∉ text.toList := not_mem_of_isNumber h (by decide) (by decide)
  simp [read?, map_plainDigit_of_isNumber h, trim_eq_self (isMargin_of_isNumber h),
    dropUnderscores?_eq_some hunderscore, splitSign_of_isNumber h]

/-- The text of a number token has a value. -/
theorem literalValue_of_isNumber {text : String} (h : IsNumber text.toList) :
    ∃ x, literalValue text = .ok x := by
  obtain ⟨x, hx⟩ := unsigned?_of_isNumber h false
  refine ⟨x, ?_⟩
  simp only [literalValue, read?_of_isNumber h, hx]

end LineCalc
