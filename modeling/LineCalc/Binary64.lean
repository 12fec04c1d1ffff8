/-!
# The binary64 numbers as natural numbers

A finite magnitude is `significand * 2 ^ shift` units of `2 ^ -1074`. The word
of a magnitude is its bit pattern without the sign. On magnitudes in increasing
order the words are the natural numbers in increasing order, up to the word of
infinity, so a carry out of the significand lands on the next word.
-/

namespace LineCalc.Binary64

/-- The size of a number without its sign. -/
inductive Magnitude where
  | finite (significand shift : Nat)
  | infinite
  | undefined
deriving Repr, DecidableEq

/-- A binary64 number taken apart. -/
structure Parts where
  negative : Bool
  magnitude : Magnitude
deriving Repr, DecidableEq

/-- The leading bit of a significand of 53 binary digits. -/
def leadingBit : Nat := Nat.pow 2 52

/-- The bit that holds the sign. -/
def signBit : Nat := Nat.pow 2 63

/-- The word of infinity, above the words of all finite magnitudes. -/
def infinityWord : Nat := 2047 * leadingBit

/-- The word of the undefined number. -/
def undefinedWord : Nat := infinityWord + leadingBit / 2

/-- The magnitude with a given word. -/
def magnitudeOfWord (word : Nat) : Magnitude :=
  let exponent := word / leadingBit
  let fraction := word % leadingBit
  if exponent = 2047 then
    if fraction = 0 then .infinite else .undefined
  else if exponent = 0 then .finite fraction 0
  else .finite (leadingBit + fraction) (exponent - 1)

/-- Take a number apart. -/
def parts (x : Float) : Parts :=
  let bits := x.toBits.toNat
  ⟨decide (signBit ≤ bits), magnitudeOfWord (bits % signBit)⟩

/-- The number with a given sign and word. -/
def ofWord (negative : Bool) (word : Nat) : Float :=
  Float.ofBits (UInt64.ofNat (if negative then signBit + word else word))

/-- Whether a number is neither infinite nor undefined. -/
def isFinite (x : Float) : Bool :=
  match (parts x).magnitude with
  | .finite _ _ => true
  | _ => false

/-- The number of binary digits of a natural number. -/
def bitLength (n : Nat) : Nat := if n = 0 then 0 else n.log2 + 1

/-- A quotient rounded to the nearest whole number, a tie to the even one. -/
def roundDiv (num den : Nat) : Nat :=
  let quotient := num / den
  let remainder := num % den
  if 2 * remainder < den then quotient
  else if den < 2 * remainder then quotient + 1
  else quotient + quotient % 2

/-- The shift at which the significand of `num / den` units has 53 binary
digits, or no shift if it has fewer. -/
def shiftFor (num den : Nat) : Nat := bitLength (num / den) - 53

/-- The word of the magnitude nearest to the fraction `num / den`, a tie to the
even significand, with infinity from half a step above the largest on. -/
def nearestWord (num den : Nat) : Nat :=
  let units := num * Nat.pow 2 1074
  let shift := shiftFor units den
  min (shift * leadingBit + roundDiv units (den * Nat.pow 2 shift)) infinityWord

/-- The word of the magnitude nearest to `digits * 10 ^ exponent`. Exponents far
beyond the range are answered without forming the power. -/
def nearestDecimal (digits : Nat) (exponent : Int) : Nat :=
  if digits = 0 then 0
  else
    match exponent with
    | .ofNat places =>
        if 1024 ≤ digits.log2 + 3 * places then infinityWord
        else nearestWord (digits * Nat.pow 10 places) 1
    | .negSucc places =>
        if digits.log2 + 1077 ≤ 3 * (places + 1) then 0
        else nearestWord digits (Nat.pow 10 (places + 1))

end LineCalc.Binary64
