import LineCalc.Proofs.DivisionPolicies
import LineCalc.Proofs.NumberTexts

/-!
# Bits of numbers

Arithmetic takes a number apart into a sign, an exponent and a significand and puts the
result together from such parts. Nothing is lost in between: a finite number that is
taken apart and put together again has the bits it had, so it is determined by them.
-/

namespace LineCalc

namespace Binary64

open Float.Model

/-- The bits of the three parts stand side by side. -/
theorem toNat_packComponents (s : UnpackedFloat.Sign) (e : BitVec 11) (m : BitVec 52) :
    (UnpackedFloat.packComponents Format.binary64 s e m).toNat =
      s.toBitVec.toNat * 0x8000000000000000 + e.toNat * 0x10000000000000 + m.toNat := by
  have he : e.toNat < 0x800 := e.isLt
  have hm : m.toNat < 0x10000000000000 := m.isLt
  simp only [UnpackedFloat.packComponents, BitVec.toNat_append]
  rw [← Nat.shiftLeft_add_eq_or_of_lt hm, ← Nat.shiftLeft_add_eq_or_of_lt he]
  simp only [Nat.shiftLeft_eq]
  omega

/-- The parts that bits are taken apart into make up the bits. -/
theorem packComponents_unpack (b : BitVec Format.binary64.numBits) :
    UnpackedFloat.packComponents Format.binary64 (.ofBitVec (UnpackedFloat.unpackSign b))
      (UnpackedFloat.unpackExponent b) (UnpackedFloat.unpackMantissa b) = b := by
  have hlt : b.toNat < 0x10000000000000000 := b.isLt
  have hsign : (UnpackedFloat.Sign.ofBitVec (UnpackedFloat.unpackSign b)).toBitVec =
      UnpackedFloat.unpackSign b := by
    generalize UnpackedFloat.unpackSign b = s
    revert s
    decide
  have hfirst : (UnpackedFloat.unpackSign b).toNat = b.toNat / 0x8000000000000000 % 2 := by
    unfold UnpackedFloat.unpackSign
    simp [Nat.shiftRight_eq_div_pow]
  have hlast : (UnpackedFloat.unpackMantissa b).toNat = b.toNat % 0x10000000000000 := by
    unfold UnpackedFloat.unpackMantissa
    simp
  apply BitVec.eq_of_toNat_eq
  rw [toNat_packComponents, hsign, hfirst, toNat_unpackExponent, hlast]
  omega

theorem bias_eq : (Format.binary64.exponentBias : Int) +
    (Format.binary64.mantissaBitsWithoutImplicit : Int) = 1075 := by
  decide

/-- The significand and the exponent of a finite number are put back into their bits. -/
theorem pack_finite (s : UnpackedFloat.Sign) {m biased : Nat} {e : Int} (hm : 0 < m)
    (he : e + 1075 = biased) (hlt : biased < 2047) :
    UnpackedFloat.pack Format.binary64 (.finite s m e hm) =
      UnpackedFloat.packComponents Format.binary64 s
        (if m.log2 = 52 then BitVec.ofNat 11 biased else 0#11) (BitVec.ofNat 52 m) := by
  have hbiased : (e + (Format.binary64.exponentBias : Int) +
      (Format.binary64.mantissaBitsWithoutImplicit : Int)).toNat = biased := by
    rw [Int.add_assoc, bias_eq, he, Int.toNat_natCast]
  have hlarge : ¬ 0x800 ≤ biased + 1 := by omega
  have hbits : m.log2 + 1 = Format.binary64.mantissaBits ↔ m.log2 = 52 := Nat.add_right_cancel_iff
  unfold UnpackedFloat.pack
  dsimp only
  rw [hbiased, if_neg hlarge]
  by_cases h : m.log2 = 52
  · rw [if_pos h, if_pos (hbits.mpr h)]
  · rw [if_neg h, if_neg (mt hbits.mp h)]

/-- A number without a leading bit has the least exponent. -/
theorem pack_subnormal (s : UnpackedFloat.Sign) {m : BitVec 52} (hm : 0 < m.toNat) {e : Int}
    (he : e + 1075 = 1) :
    UnpackedFloat.pack Format.binary64 (.finite s m.toNat e hm) =
      UnpackedFloat.packComponents Format.binary64 s 0#11 m := by
  have hlt : m.toNat < 0x10000000000000 := m.isLt
  have hlog : m.toNat.log2 ≠ 52 := by
    intro hlog
    have hle := ((Nat.log2_eq_iff (Nat.ne_of_gt hm)).mp hlog).1
    omega
  rw [@pack_finite s _ 1 _ hm he (by decide), if_neg hlog, BitVec.ofNat_toNat,
    BitVec.setWidth_eq]

/-- A number with a leading bit keeps its exponent and the bits behind the leading one. -/
theorem pack_normal (s : UnpackedFloat.Sign) {exponent : BitVec 11} {m : BitVec 52}
    (hm : 0 < (1#1 ++ m).toNat) {e : Int} (he : e + 1075 = exponent.toNat)
    (hlt : exponent.toNat < 2047) :
    UnpackedFloat.pack Format.binary64 (.finite s (1#1 ++ m).toNat e hm) =
      UnpackedFloat.packComponents Format.binary64 s exponent m := by
  have hfraction : m.toNat < 0x10000000000000 := m.isLt
  have hvalue : (1#1 ++ m).toNat = 0x10000000000000 + m.toNat := by
    rw [BitVec.toNat_append, ← Nat.shiftLeft_add_eq_or_of_lt hfraction]
    rfl
  have hlog : (1#1 ++ m).toNat.log2 = 52 := by
    rw [hvalue, Nat.log2_eq_iff (by omega)]
    omega
  have hrest : BitVec.ofNat 52 (1#1 ++ m).toNat = m := by
    apply BitVec.eq_of_toNat_eq
    rw [BitVec.toNat_ofNat, hvalue]
    omega
  rw [pack_finite s hm he hlt, if_pos hlog, hrest, BitVec.ofNat_toNat, BitVec.setWidth_eq]

/-- Bits that are not those of an infinity or of an undefined number are put back as
they were. -/
theorem pack_unpack {b : BitVec Format.binary64.numBits}
    (h : UnpackedFloat.unpackExponent b ≠ -1#11) :
    UnpackedFloat.pack Format.binary64 (UnpackedFloat.unpack Format.binary64 b) = b := by
  have hparts := packComponents_unpack b
  have hexponent : (UnpackedFloat.unpackExponent b).toNat < 2047 := by
    have hlt : (UnpackedFloat.unpackExponent b).toNat < 0x800 := BitVec.isLt _
    have hne : (UnpackedFloat.unpackExponent b).toNat ≠ 2047 :=
      fun heq => h (BitVec.eq_of_toNat_eq heq)
    omega
  unfold UnpackedFloat.unpack
  rw [if_neg h]
  by_cases hleast : UnpackedFloat.unpackExponent b = 0#11
  · rw [if_pos hleast]
    rw [hleast] at hparts
    by_cases hzero : UnpackedFloat.unpackMantissa b = 0#52
    · rw [dif_pos hzero]
      rw [hzero] at hparts
      exact hparts
    · rw [dif_neg hzero, pack_subnormal _ _ (by rw [bias_eq, hleast]; rfl)]
      exact hparts
  · rw [if_neg hleast, pack_normal _ _ (by rw [bias_eq]; omega) hexponent]
    exact hparts

/-- A finite number is the one with its bits. -/
theorem ofBits_toBits {x : Float} (h : isFinite x = true) : Float.ofBits x.toBits = x := by
  have hexponent := mt (unpackExponent_eq_iff x.toBits.toBitVec).mp ((isFinite_iff x).mp h)
  apply eq_of_toBits
  exact UInt64.toBitVec_inj.mp (pack_unpack hexponent)

end Binary64

end LineCalc
