import LineCalc.Decimal.Shortest

/-!
# Numbers as text

The digits of a number are those of its shortest decimal. A layout decides
where the point stands: numbers whose leading digit lies within a range of
places are written positionally with at least one digit on each side of the
point, and all others with an exponent.
-/

namespace LineCalc.Decimal

open Binary64

/-- The choices of a number format. -/
structure Layout where
  /-- The least place of a leading digit that is written positionally. -/
  lowestPlace : Int
  /-- The first place of a leading digit that is written with an exponent again. -/
  placeLimit : Int
  /-- The least number of digits of an exponent. -/
  exponentWidth : Nat

/-- Results are positional from four places after the point to sixteen before
it, and exponents have two digits or more. -/
def resultLayout : Layout := ⟨-4, 16, 2⟩

/-- Decimal digits without the zeros at their end. -/
def dropTrailingZeros (ds : List Char) : List Char :=
  (ds.reverse.dropWhile (· == '0')).reverse

/-- Digits with the point after the leading one, which stands at `place ≥ 0`. -/
def wholeText (ds : List Char) (place : Nat) : List Char :=
  let whole := ds.take (place + 1)
  let fraction := ds.drop (place + 1)
  whole ++ List.replicate (place + 1 - ds.length) '0' ++
    '.' :: (if fraction.isEmpty then ['0'] else fraction)

/-- Digits after the point, the leading one `gap` zeros behind it. -/
def fractionText (ds : List Char) (gap : Nat) : List Char :=
  '0' :: '.' :: (List.replicate gap '0' ++ ds)

/-- Digits in positional notation, the leading one at the given place. -/
def positionalText (ds : List Char) : (place : Int) → List Char
  | .ofNat place => wholeText ds place
  | .negSucc gap => fractionText ds gap

/-- The sign and the digits of an exponent, with zeros in front up to a width. -/
def exponentText (width : Nat) (place : Int) : List Char :=
  let ds := Nat.toDigits 10 place.natAbs
  (if place < 0 then '-' else '+') :: (List.replicate (width - ds.length) '0' ++ ds)

/-- Digits in exponent notation, the leading one at the given place. -/
def scientificText (width : Nat) (ds : List Char) (place : Int) : List Char :=
  let mantissa :=
    match ds with
    | [] => []
    | [d] => [d]
    | d :: fraction => d :: '.' :: fraction
  mantissa ++ 'e' :: exponentText width place

/-- A decimal laid out as text. -/
def Layout.text (layout : Layout) (decimal : Scaled) : List Char :=
  let all := Nat.toDigits 10 decimal.digits
  let place := (all.length : Int) - 1 + decimal.exponent
  let ds := dropTrailingZeros all
  if layout.lowestPlace ≤ place ∧ place < layout.placeLimit then positionalText ds place
  else scientificText layout.exponentWidth ds place

/-- The text of a magnitude. -/
def magnitudeText : Magnitude → List Char
  | .undefined => "nan".toList
  | .infinite => "inf".toList
  | .finite 0 _ => "0.0".toList
  | .finite significand shift => resultLayout.text (shortest significand shift)

/-- The text of a number. The undefined number has no sign. -/
def chars (x : Float) : List Char :=
  let p := parts x
  if p.negative && p.magnitude != .undefined then '-' :: magnitudeText p.magnitude
  else magnitudeText p.magnitude

/-- The text of a number as results and messages show it. -/
def text (x : Float) : String := String.ofList (chars x)

@[simp] theorem toList_text (x : Float) : (text x).toList = chars x := by
  simp [text]

end LineCalc.Decimal
