import LineCalc.Binary64
import LineCalc.Text.Blank
import LineCalc.Text.DecimalDigit

/-!
# Reading numbers

A number is an optional sign followed by a decimal or by one of the words
`inf`, `infinity`, and `nan` in any case. A decimal has digits, at most one
point with a digit on at least one side, and an optional exponent. The digits
may be those of any script, single underscores may stand between two digits,
and blanks other than the information separators may surround the number.
-/

namespace LineCalc.Decimal.Literal

open Text Binary64

/-- Whether a character may surround a number. -/
def isMargin (c : Char) : Bool := isBlank c && !(28 ≤ c.toNat && c.toNat ≤ 31)

/-- Whether a character is one of the ten ASCII digits. -/
def isDigit (c : Char) : Bool := '0' ≤ c && c ≤ '9'

/-- A digit of any script as the ASCII digit of the same value; others stay. -/
def plainDigit (c : Char) : Char :=
  match digitValue? c with
  | some d => Char.ofNat (48 + d)
  | none => c

/-- A text without its underscores, if each stands between two digits. The
flag tells whether the character before the text is a digit. -/
def dropUnderscores? (afterDigit : Bool) : List Char → Option (List Char)
  | [] => some []
  | c :: rest =>
      if c = '_' then
        match rest with
        | d :: _ => if afterDigit && isDigit d then dropUnderscores? false rest else none
        | [] => none
      else (dropUnderscores? (isDigit c) rest).map (c :: ·)

/-- The sign in front of a text, and what follows it. -/
def splitSign : List Char → Bool × List Char
  | '-' :: rest => (true, rest)
  | '+' :: rest => (false, rest)
  | cs => (false, cs)

/-- The exponent that ends a decimal, which is zero if nothing is left. -/
def exponent? : List Char → Option Int
  | [] => some 0
  | c :: rest =>
      if c = 'e' ∨ c = 'E' then
        let (negative, ds) := splitSign rest
        if !ds.isEmpty && ds.all isDigit then
          let size : Int := Nat.ofDigitChars 10 ds 0
          some (if negative then -size else size)
        else none
      else none

/-- The digits and the exponent of a decimal without sign. -/
def decimal? (cs : List Char) : Option (Nat × Int) :=
  let whole := cs.takeWhile isDigit
  let afterWhole := cs.dropWhile isDigit
  let (fraction, tail) :=
    match afterWhole with
    | '.' :: rest => (rest.takeWhile isDigit, rest.dropWhile isDigit)
    | _ => ([], afterWhole)
  if whole.isEmpty && fraction.isEmpty then none
  else
    (exponent? tail).map fun e =>
      (Nat.ofDigitChars 10 (whole ++ fraction) 0, e - fraction.length)

/-- The number a text without sign stands for, with the given sign. -/
def unsigned? (negative : Bool) (cs : List Char) : Option Float :=
  let word := cs.map Char.toLower
  if word = "inf".toList ∨ word = "infinity".toList then some (ofWord negative infinityWord)
  else if word = "nan".toList then some (ofWord false undefinedWord)
  else (decimal? cs).map fun (digits, e) => ofWord negative (nearestDecimal digits e)

/-- The number a text stands for, rounded to the nearest binary64 number. -/
def read? (text : String) : Option Float := do
  let cs ← dropUnderscores? false (trim isMargin (text.toList.map plainDigit))
  let (negative, rest) := splitSign cs
  unsigned? negative rest

end LineCalc.Decimal.Literal
