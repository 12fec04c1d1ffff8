import LineCalc.Decimal.Layout

/-!
# Texts of numbers

Whether a number is finite can be seen from the exponent in its bits. The text of a
finite number has a point or an exponent, so it is told apart from every word without
the letter that marks an exponent.
-/

namespace LineCalc

namespace Binary64

open Float.Model

/-- The bits of the exponent lie between those of the fraction and that of the sign. -/
theorem toNat_unpackExponent (b : BitVec Format.binary64.numBits) :
    (UnpackedFloat.unpackExponent b).toNat = b.toNat / 0x10000000000000 % 0x800 := by
  simp [UnpackedFloat.unpackExponent, Nat.shiftRight_eq_div_pow]

theorem unpackExponent_eq_iff (b : BitVec Format.binary64.numBits) :
    UnpackedFloat.unpackExponent b = -1#11 ↔ b.toNat % signBit / leadingBit = 2047 := by
  have hones : (-1#11 : BitVec 11).toNat = 2047 := by decide
  have hsign : signBit = 0x8000000000000000 := by decide
  have hleading : leadingBit = 0x10000000000000 := by decide
  have hlt : b.toNat < 0x10000000000000000 := b.isLt
  rw [← BitVec.toNat_inj, hsign, hleading]
  change (UnpackedFloat.unpackExponent b).toNat = (-1#11 : BitVec 11).toNat ↔ _
  rw [toNat_unpackExponent, hones]
  omega

/-- A magnitude is finite unless its exponent has all bits set. -/
theorem isFinite_iff (x : Float) :
    isFinite x = true ↔ x.toBits.toNat % signBit / leadingBit ≠ 2047 := by
  unfold isFinite parts magnitudeOfWord
  by_cases h : x.toBits.toNat % signBit / leadingBit = 2047
  · by_cases hfraction : x.toBits.toNat % signBit % leadingBit = 0
    · simp [h, hfraction]
    · simp [h, hfraction]
  · by_cases hzero : x.toBits.toNat % signBit / leadingBit = 0
    · simp [hzero]
    · simp [h, hzero]

theorem isFinite_unpack_iff (b : BitVec Format.binary64.numBits) :
    (UnpackedFloat.unpack Format.binary64 b).isFinite = true ↔
      UnpackedFloat.unpackExponent b ≠ -1#11 := by
  unfold UnpackedFloat.unpack
  by_cases hones : UnpackedFloat.unpackExponent b = -1#11
  · rw [if_pos hones]
    refine iff_of_false ?_ (not_not_intro hones)
    split <;> exact Bool.false_ne_true
  · rw [if_neg hones]
    refine iff_of_true ?_ hones
    by_cases hleast : UnpackedFloat.unpackExponent b = 0#11
    · rw [if_pos hleast]
      by_cases hzero : UnpackedFloat.unpackMantissa b = 0#52
      · rw [dif_pos hzero]
        rfl
      · rw [dif_neg hzero]
        rfl
    · rw [if_neg hleast]
      rfl

/-- The finite numbers are those of binary64 arithmetic. -/
theorem isFinite_eq (x : Float) : isFinite x = x.isFinite := by
  let b : BitVec Format.binary64.numBits := x.toBits.toBitVec
  rw [Bool.eq_iff_iff]
  calc
    isFinite x = true ↔ b.toNat % signBit / leadingBit ≠ 2047 := isFinite_iff x
    _ ↔ UnpackedFloat.unpackExponent b ≠ -1#11 := (not_congr (unpackExponent_eq_iff b)).symm
    _ ↔ x.isFinite = true := (isFinite_unpack_iff b).symm

end Binary64

namespace Decimal

open Binary64

theorem mem_positionalText (ds : List Char) (place : Int) : '.' ∈ positionalText ds place := by
  cases place with
  | ofNat place => simp [positionalText, wholeText]
  | negSucc gap => simp [positionalText, fractionText]

theorem mem_scientificText (width : Nat) (ds : List Char) (place : Int) :
    'e' ∈ scientificText width ds place := by
  simp [scientificText]

theorem mem_layout_text (layout : Layout) (decimal : Scaled) :
    '.' ∈ layout.text decimal ∨ 'e' ∈ layout.text decimal := by
  simp only [Layout.text]
  split
  · exact Or.inl (mem_positionalText _ _)
  · exact Or.inr (mem_scientificText _ _ _)

/-- The text of a finite number has a point or an exponent. -/
theorem mem_chars_of_isFinite {x : Float} (h : isFinite x = true) :
    '.' ∈ chars x ∨ 'e' ∈ chars x := by
  have hmagnitude : '.' ∈ magnitudeText (parts x).magnitude ∨
      'e' ∈ magnitudeText (parts x).magnitude := by
    unfold isFinite at h
    cases hm : (parts x).magnitude with
    | undefined => simp [hm] at h
    | infinite => simp [hm] at h
    | finite significand shift =>
        cases significand with
        | zero =>
            rw [magnitudeText]
            exact Or.inl (by decide)
        | succ significand =>
            rw [magnitudeText]
            · exact mem_layout_text _ _
            · exact Nat.succ_ne_zero significand
  simp only [chars]
  split
  · exact hmagnitude.imp (List.mem_cons_of_mem _) (List.mem_cons_of_mem _)
  · exact hmagnitude

end Decimal

end LineCalc
