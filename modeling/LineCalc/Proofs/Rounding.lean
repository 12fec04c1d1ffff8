import LineCalc.Decimal.Shortest
import Mathlib.Tactic.Ring

/-!
# Decimals that are read back

The window of a magnitude holds the decimals that are nearer to it than to any other
magnitude. Whatever lies in the window is rounded to the magnitude, and the shortest
decimal lies in it, so it is read back as the number it was made from.

## Implementation notes

A decimal in the window may lie just below a power of two. It is then rounded in steps
of half the size, and the carry out of the significand leads to the same word.
-/

namespace LineCalc

namespace Binary64

/-- The significand and the shift of a finite magnitude: a significand of fewer than
53 binary digits is not shifted. -/
structure Representable (significand shift : Nat) : Prop where
  lt : significand < 2 * leadingBit
  shift_eq_zero_or : shift = 0 ∨ leadingBit ≤ significand
  shift_le : shift ≤ 2045

/-- The word of a finite magnitude counts the magnitudes below it. -/
theorem representable_of_magnitudeOfWord {word significand shift : Nat} (hword : word < signBit)
    (h : magnitudeOfWord word = .finite significand shift) :
    Representable significand shift ∧ word = shift * leadingBit + significand := by
  have hsign : signBit = 2048 * leadingBit := by decide
  have hpos : 0 < leadingBit := by decide
  have hmod := Nat.mod_lt word hpos
  have hword' := Nat.div_add_mod' word leadingBit
  have hexponent : word / leadingBit < 2048 := by
    rwa [Nat.div_lt_iff_lt_mul hpos, ← hsign]
  simp only [magnitudeOfWord] at h
  split at h
  · split at h <;> cases h
  · split at h
    · next hzero =>
        cases h
        rw [hzero] at hword'
        exact ⟨⟨by omega, Or.inl rfl, Nat.zero_le _⟩, hword'.symm⟩
    · next hinfinite hzero =>
        cases h
        obtain ⟨n, hn⟩ := Nat.exists_eq_succ_of_ne_zero hzero
        rw [hn] at hword' hexponent hinfinite ⊢
        rw [Nat.succ_mul] at hword'
        exact ⟨⟨by omega, Or.inr (by omega), by omega⟩, by rw [Nat.succ_sub_one]; omega⟩

/-- The number of steps to which a fraction is nearest is found by rounding, where a
tie is left to the even one. -/
theorem roundDiv_eq {num den q : Nat} (hden : 0 < den) (hlow : 2 * (q * den) ≤ 2 * num + den)
    (hhigh : 2 * num ≤ 2 * (q * den) + den)
    (htie : q % 2 = 1 → 2 * (q * den) < 2 * num + den ∧ 2 * num < 2 * (q * den) + den) :
    roundDiv num den = q := by
  have hmod := Nat.mod_lt num hden
  have hdiv : num = num / den * den + num % den := (Nat.div_add_mod' num den).symm
  have hle : num / den < q + 1 := by
    apply Nat.lt_of_mul_lt_mul_right
    calc
      num / den * den ≤ num := Nat.div_mul_le_self num den
      _ < q * den + den := by omega
      _ = (q + 1) * den := (Nat.succ_mul q den).symm
  have hge : q < num / den + 2 := by
    apply Nat.lt_of_mul_lt_mul_right
    calc
      q * den < num / den * den + 2 * den := by omega
      _ = (num / den + 2) * den := by ring
  simp only [roundDiv]
  obtain hq | hq : num / den = q ∨ num / den + 1 = q := by omega
  · rw [hq] at hdiv ⊢
    split
    · rfl
    · split
      · omega
      · omega
  · have hstep : q * den = num / den * den + den := by
      rw [← hq]
      exact Nat.succ_mul _ den
    split
    · omega
    · split
      · exact hq
      · omega

theorem shiftFor_eq {num den shift : Nat} (hden : 0 < den)
    (hlow : leadingBit * (den * Nat.pow 2 shift) ≤ num)
    (hhigh : num < 2 * leadingBit * (den * Nat.pow 2 shift)) : shiftFor num den = shift := by
  have hlower : 2 ^ (52 + shift) ≤ num / den := by
    rw [Nat.le_div_iff_mul_le hden]
    calc
      2 ^ (52 + shift) * den = leadingBit * (den * Nat.pow 2 shift) := by
        simp only [leadingBit, Nat.pow_eq]
        ring
      _ ≤ num := hlow
  have hupper : num / den < 2 ^ (52 + shift + 1) := by
    rw [Nat.div_lt_iff_lt_mul hden]
    calc
      num < 2 * leadingBit * (den * Nat.pow 2 shift) := hhigh
      _ = 2 ^ (52 + shift + 1) * den := by
        simp only [leadingBit, Nat.pow_eq]
        ring
  have hne : num / den ≠ 0 := Nat.ne_of_gt (Nat.lt_of_lt_of_le (Nat.two_pow_pos _) hlower)
  have hlog : (num / den).log2 = 52 + shift := (Nat.log2_eq_iff hne).mpr ⟨hlower, hupper⟩
  rw [shiftFor, bitLength, if_neg hne, hlog]
  omega

theorem shiftFor_eq_zero {num den : Nat} (hden : 0 < den) (hhigh : num < 2 * leadingBit * den) :
    shiftFor num den = 0 := by
  rw [shiftFor, bitLength]
  split
  · rfl
  · next hne =>
      have hlog : (num / den).log2 < 53 := by
        rw [Nat.log2_lt hne, Nat.div_lt_iff_lt_mul hden]
        exact hhigh
      omega

/-- The word to which a number of units, given as a fraction, is rounded. -/
def roundedWord (units den : Nat) : Nat :=
  shiftFor units den * leadingBit + roundDiv units (den * Nat.pow 2 (shiftFor units den))

/-- What lies just below a power of two is rounded up to it in steps of half the size. -/
theorem roundedWord_below_power {units den shift : Nat} (hden : 0 < den)
    (hlow : 4 * (leadingBit * (den * Nat.pow 2 (shift + 1))) ≤
      4 * units + den * Nat.pow 2 (shift + 1))
    (hhigh : units < leadingBit * (den * Nat.pow 2 (shift + 1))) :
    roundedWord units den = (shift + 1) * leadingBit + leadingBit := by
  have hdouble : den * Nat.pow 2 (shift + 1) = 2 * (den * Nat.pow 2 shift) := by
    simp only [Nat.pow_eq]
    ring
  have hpos : 0 < den * Nat.pow 2 shift := Nat.mul_pos hden (Nat.two_pow_pos shift)
  have hleading : 2 * (den * Nat.pow 2 shift) ≤ leadingBit * (den * Nat.pow 2 shift) :=
    Nat.mul_le_mul_right _ (by decide)
  rw [hdouble] at hlow hhigh
  generalize hstep : den * Nat.pow 2 shift = step at *
  have hmul : leadingBit * (2 * step) = 2 * (leadingBit * step) := Nat.mul_left_comm _ _ _
  rw [hmul] at hlow hhigh
  have hshift : shiftFor units den = shift := by
    apply shiftFor_eq hden
    · rw [hstep]
      omega
    · rw [hstep, Nat.mul_assoc]
      exact hhigh
  have hround : roundDiv units step = 2 * leadingBit := by
    apply roundDiv_eq hpos
    · rw [Nat.mul_assoc]
      omega
    · rw [Nat.mul_assoc]
      omega
    · intro hodd
      omega
  rw [roundedWord, hshift, hstep, hround]
  ring

/-- What is at most half a step away from a magnitude, and not below the power of two
of its significand, is rounded to the magnitude. -/
theorem roundedWord_near {units den significand shift : Nat} (hden : 0 < den)
    (h : Representable significand shift)
    (hpower : shift = 0 ∨ leadingBit * (den * Nat.pow 2 shift) ≤ units)
    (hlow : 2 * (significand * (den * Nat.pow 2 shift)) ≤ 2 * units + den * Nat.pow 2 shift)
    (hhigh : 2 * units ≤ 2 * (significand * (den * Nat.pow 2 shift)) + den * Nat.pow 2 shift)
    (hodd : significand % 2 = 1 →
      2 * (significand * (den * Nat.pow 2 shift)) < 2 * units + den * Nat.pow 2 shift ∧
      2 * units < 2 * (significand * (den * Nat.pow 2 shift)) + den * Nat.pow 2 shift) :
    roundedWord units den = shift * leadingBit + significand := by
  have hpos : 0 < den * Nat.pow 2 shift := Nat.mul_pos hden (Nat.two_pow_pos shift)
  have hupper : units < 2 * leadingBit * (den * Nat.pow 2 shift) := by
    have hmul : (significand + 1) * (den * Nat.pow 2 shift) ≤
        2 * leadingBit * (den * Nat.pow 2 shift) := Nat.mul_le_mul_right _ h.lt
    rw [Nat.succ_mul] at hmul
    omega
  have hshift : shiftFor units den = shift := by
    rcases hpower with rfl | hpower
    · apply shiftFor_eq_zero hden
      simpa using hupper
    · exact shiftFor_eq hden hpower hupper
  rw [roundedWord, hshift, roundDiv_eq hpos hlow hhigh hodd]

end Binary64

namespace Decimal

open Binary64

theorem unit_pos : 0 < unit := by
  unfold unit
  generalize 1074 = places
  exact Nat.pow_pos (by decide)

/-- The decimals in a window, counted in quarters of any unit. -/
theorem Window.contains_congr {window window' : Window} {m n x x' : Nat} (hm : 0 < m) (hn : 0 < n)
    (hlow : window.low * m = window'.low * n) (hhigh : window.high * m = window'.high * n)
    (hclosed : window.closed = window'.closed) (hx : x * m = x' * n) :
    window.contains x = window'.contains x' := by
  have hlt {a b a' b' : Nat} (ha : a * m = a' * n) (hb : b * m = b' * n) : a < b ↔ a' < b' := by
    rw [← Nat.mul_lt_mul_right hm, ha, hb, Nat.mul_lt_mul_right hn]
  have hle {a b a' b' : Nat} (ha : a * m = a' * n) (hb : b * m = b' * n) : a ≤ b ↔ a' ≤ b' := by
    rw [← Nat.not_lt, hlt hb ha, Nat.not_lt]
  simp only [Window.contains, hclosed, hlt hlow hx, hlt hx hhigh, hle hlow hx, hle hx hhigh]

/-- The window of a magnitude in quarters of the step between its multiples of a unit. -/
def stepWindow (significand shift step : Nat) : Window :=
  { low := (4 * significand - if significand = leadingBit ∧ 0 < shift then 1 else 2) * step
    high := (4 * significand + 2) * step
    closed := significand % 2 == 0 }

theorem Window.lt_of_contains {window : Window} {x : Nat} (h : window.contains x = true) :
    window.low ≤ x ∧ x ≤ window.high ∧
      (window.closed = false → window.low < x ∧ x < window.high) := by
  unfold Window.contains at h
  split at h
  · next hclosed =>
      simp only [Bool.and_eq_true, decide_eq_true_eq] at h
      exact ⟨h.1, h.2, fun hopen => by rw [hclosed] at hopen; cases hopen⟩
  · simp only [Bool.and_eq_true, decide_eq_true_eq] at h
    exact ⟨Nat.le_of_lt h.1, Nat.le_of_lt h.2, fun _ => h⟩

/-- The ends of a window lie at most half a step away from the magnitude. -/
theorem near_of_contains {units significand shift step : Nat}
    (h : (stepWindow significand shift step).contains (4 * units) = true) :
    2 * (significand * step) ≤ 2 * units + step ∧ 2 * units ≤ 2 * (significand * step) + step ∧
      (significand % 2 = 1 →
        2 * (significand * step) < 2 * units + step ∧
        2 * units < 2 * (significand * step) + step) := by
  obtain ⟨hlow, hhigh, hopen⟩ := Window.lt_of_contains h
  simp only [stepWindow, beq_eq_false_iff_ne] at hlow hhigh hopen
  generalize hreach : (if significand = leadingBit ∧ 0 < shift then 1 else 2) = reach at *
  have hmul : reach * step ≤ 2 * step := by
    apply Nat.mul_le_mul_right
    rw [← hreach]
    split <;> omega
  rw [Nat.sub_mul, Nat.mul_assoc] at hlow hopen
  rw [Nat.add_mul, Nat.mul_assoc] at hhigh hopen
  refine ⟨by omega, by omega, ?_⟩
  intro hodd
  have hstrict := hopen (by omega)
  omega

/-- Whatever lies in the window of a magnitude is rounded to the magnitude. -/
theorem roundedWord_of_contains {units den significand shift : Nat} (hden : 0 < den)
    (h : Representable significand shift)
    (hcontains : (stepWindow significand shift (den * Nat.pow 2 shift)).contains (4 * units) =
      true) :
    roundedWord units den = shift * leadingBit + significand := by
  obtain ⟨hlow, hhigh, hodd⟩ := near_of_contains hcontains
  by_cases hpower : significand = leadingBit ∧ 0 < shift ∧
      units < leadingBit * (den * Nat.pow 2 shift)
  · obtain ⟨rfl, hshift, hunits⟩ := hpower
    obtain ⟨n, rfl⟩ : ∃ n, shift = n + 1 := ⟨shift - 1, by omega⟩
    -- Only here the window is narrower than half a step.
    have hnarrow := (Window.lt_of_contains hcontains).1
    simp only [stepWindow, hshift, and_self, if_true] at hnarrow
    rw [Nat.sub_mul, Nat.mul_assoc] at hnarrow
    exact roundedWord_below_power hden (by omega) hunits
  · refine roundedWord_near hden h ?_ hlow hhigh hodd
    by_cases hshift : shift = 0
    · exact Or.inl hshift
    · right
      have hleading := h.shift_eq_zero_or.resolve_left hshift
      by_cases hequal : significand = leadingBit
      · have hpower := not_and.mp (not_and.mp hpower hequal) (Nat.pos_of_ne_zero hshift)
        omega
      · have hmul : (leadingBit + 1) * (den * Nat.pow 2 shift) ≤
            significand * (den * Nat.pow 2 shift) := Nat.mul_le_mul_right _ (by omega)
        rw [Nat.succ_mul] at hmul
        omega

/-- A magnitude lies in its own window. -/
theorem contains_windowOf {significand : Nat} (hpos : 0 < significand) (shift : Nat) :
    (windowOf significand shift).contains (4 * (significand * Nat.pow 2 shift * unit)) = true := by
  have hstep : 0 < Nat.pow 2 shift * unit := Nat.mul_pos (Nat.two_pow_pos shift) unit_pos
  have hreach : (if significand = leadingBit ∧ 0 < shift then 1 else 2) ≠ 0 := by
    split <;> decide
  simp only [windowOf, Window.contains, Nat.mul_assoc]
  generalize (if significand = leadingBit ∧ 0 < shift then 1 else 2) = reach at *
  generalize Nat.pow 2 shift * unit = step at *
  have hmul : 0 < reach * step := Nat.mul_pos (Nat.pos_of_ne_zero hreach) hstep
  have hmul' : 0 < significand * step := Nat.mul_pos hpos hstep
  have hlow : (4 * significand - reach) * step < 4 * (significand * step) := by
    rw [Nat.sub_mul, Nat.mul_assoc]
    omega
  have hhigh : 4 * (significand * step) < (4 * significand + 2) * step := by
    rw [Nat.add_mul, Nat.mul_assoc]
    omega
  split
  · simp only [Bool.and_eq_true, decide_eq_true_eq]
    exact ⟨Nat.le_of_lt hlow, Nat.le_of_lt hhigh⟩
  · simp only [Bool.and_eq_true, decide_eq_true_eq]
    exact ⟨hlow, hhigh⟩

/-- A neighbour that is chosen lies in the window. -/
theorem contains_of_neighbour? {window : Window} {value place digits : Nat}
    (h : neighbour? window value place = some digits) :
    window.contains (4 * (digits * Nat.pow 10 place)) = true := by
  simp only [neighbour?] at h
  split at h
  · next hboth =>
      rw [Bool.and_eq_true] at hboth
      cases h
      simp only [roundDiv]
      split
      · exact hboth.1
      · split
        · exact hboth.2
        · rcases Nat.mod_two_eq_zero_or_one (value / Nat.pow 10 place) with heven | hodd
          · rw [heven]
            exact hboth.1
          · rw [hodd]
            exact hboth.2
  · split at h
    · next hleft =>
        cases h
        exact hleft
    · split at h
      · next hright =>
          cases h
          exact hright
      · cases h

/-- The search ends with a decimal in the window, if the value itself lies in it. -/
theorem contains_search {window : Window} {value : Nat} (h : window.contains (4 * value) = true)
    (place : Nat) :
    window.contains (4 * ((search window value place).1 *
      Nat.pow 10 (search window value place).2)) = true := by
  induction place with
  | zero => simpa [search] using h
  | succ place ih =>
      rw [search]
      cases hfound : neighbour? window value (place + 1) with
      | some digits => exact contains_of_neighbour? hfound
      | none => exact ih

/-- The shortest decimal of a positive magnitude lies in its window. -/
theorem contains_shortest {significand : Nat} (hpos : 0 < significand) (shift : Nat) :
    ∃ digits place : Nat, shortest significand shift = ⟨digits, (place : Int) - 1074⟩ ∧
      (windowOf significand shift).contains (4 * (digits * Nat.pow 10 place)) = true :=
  ⟨_, _, rfl, contains_search (contains_windowOf hpos shift) _⟩

/-- A fraction that is in the window of a magnitude is rounded to the magnitude. The
fraction is given once more as a number of the units of decimals. -/
theorem nearestWord_of_contains {num den value significand shift : Nat} (hden : 0 < den)
    (h : Representable significand shift)
    (hvalue : num * Nat.pow 2 1074 * unit = value * den)
    (hcontains : (windowOf significand shift).contains (4 * value) = true) :
    nearestWord num den = shift * leadingBit + significand := by
  have hstep : (stepWindow significand shift (den * Nat.pow 2 shift)).contains
      (4 * (num * Nat.pow 2 1074)) = true := by
    rw [← hcontains]
    refine Window.contains_congr unit_pos hden ?_ ?_ rfl ?_
    · simp only [stepWindow, windowOf]
      ring
    · simp only [stepWindow, windowOf]
      ring
    · rw [Nat.mul_assoc, hvalue, Nat.mul_assoc]
  have hmul := Nat.mul_le_mul_right leadingBit h.shift_le
  have hlt := h.lt
  rw [nearestWord, ← roundedWord, roundedWord_of_contains hden h hstep, infinityWord]
  omega

/-- What lies in the window of a positive magnitude is at least half the least one. -/
theorem unit_le_of_contains {value significand shift : Nat} (hpos : 0 < significand)
    (h : (windowOf significand shift).contains (4 * value) = true) : unit ≤ 2 * value := by
  have hlow := (Window.lt_of_contains h).1
  have htwo : 2 ≤ 4 * significand - if significand = leadingBit ∧ 0 < shift then 1 else 2 := by
    split <;> omega
  have hstep : unit ≤ Nat.pow 2 shift * unit :=
    Nat.le_mul_of_pos_left unit (Nat.two_pow_pos shift)
  have hmul := Nat.mul_le_mul htwo hstep
  rw [← Nat.mul_assoc] at hmul
  have hquarters := Nat.le_trans hmul hlow
  omega

/-- A decimal of which the double is not below the least magnitude has few digits after
the point, compared with those of its numerator. -/
theorem places_lt_of_unit_le {digits value places : Nat} (hunit : unit ≤ 2 * value)
    (hvalue : digits * Nat.pow 2 1074 * unit = value * Nat.pow 10 places) :
    3 * places < digits.log2 + 1076 := by
  have hlog : digits < 2 ^ (digits.log2 + 1) := Nat.lt_log2_self
  have hpower : 2 ^ (3 * places) ≤ Nat.pow 10 places := by
    rw [Nat.pow_mul]
    exact Nat.pow_le_pow_left (by decide) places
  generalize hbits : (1074 : Nat) = bits at *
  have hle : Nat.pow 10 places ≤ 2 * (digits * Nat.pow 2 bits) := by
    apply Nat.le_of_mul_le_mul_right _ unit_pos
    calc
      Nat.pow 10 places * unit ≤ Nat.pow 10 places * (2 * value) := Nat.mul_le_mul_left _ hunit
      _ = 2 * (digits * Nat.pow 2 bits) * unit := by
        rw [Nat.mul_assoc 2, hvalue]
        ring
  have hlt : 2 ^ (3 * places) < 2 ^ (digits.log2 + 1 + (bits + 1)) := by
    calc
      2 ^ (3 * places) ≤ digits * 2 ^ (bits + 1) := by
        refine Nat.le_trans (Nat.le_trans hpower hle) (Nat.le_of_eq ?_)
        simp only [Nat.pow_eq]
        ring
      _ < 2 ^ (digits.log2 + 1) * 2 ^ (bits + 1) :=
        Nat.mul_lt_mul_of_pos_right hlog (Nat.two_pow_pos _)
      _ = 2 ^ (digits.log2 + 1 + (bits + 1)) := (Nat.pow_add 2 _ _).symm
  have hexponents := (Nat.pow_lt_pow_iff_right (by decide)).mp hlt
  omega

theorem mul_pow_ten {finest : Nat} (h : finest = 1074) (n : Nat) :
    n * Nat.pow 10 finest = n * Nat.pow 2 1074 * unit := by
  unfold unit
  generalize 1074 = places at *
  rw [h, Nat.mul_assoc]
  exact congrArg (n * ·) (Nat.mul_pow 2 5 places)

/-- A decimal in the window of a magnitude is read as the magnitude. -/
theorem nearestDecimal_of_contains {digits value places finest significand shift : Nat}
    (h : Representable significand shift) (hpos : 0 < significand) (hfinest : finest = 1074)
    (hvalue : digits * Nat.pow 10 finest = value * Nat.pow 10 (places + 1))
    (hcontains : (windowOf significand shift).contains (4 * value) = true) :
    nearestDecimal digits (-((places + 1 : Nat) : Int)) = shift * leadingBit + significand := by
  rw [mul_pow_ten hfinest] at hvalue
  have hunit := unit_le_of_contains hpos hcontains
  have hplaces := places_lt_of_unit_le hunit hvalue
  have hpower : 0 < Nat.pow 10 (places + 1) := Nat.pow_pos (by decide)
  have hpositive : 0 < value * Nat.pow 10 (places + 1) := by
    apply Nat.mul_pos _ hpower
    have hunit' := unit_pos
    omega
  have hdigits : digits ≠ 0 := by
    rw [← hvalue] at hpositive
    exact Nat.ne_of_gt (Nat.pos_of_mul_pos_right (Nat.pos_of_mul_pos_right hpositive))
  have hnearest := nearestWord_of_contains hpower h hvalue hcontains
  rw [nearestDecimal.eq_def, if_neg hdigits]
  show (if digits.log2 + 1077 ≤ 3 * (places + 1) then 0
    else nearestWord digits (Nat.pow 10 (places + 1))) = _
  rw [if_neg (by omega), hnearest]

end Decimal

end LineCalc
