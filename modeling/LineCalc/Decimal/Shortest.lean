import LineCalc.Binary64

/-!
# The shortest decimal of a binary64 magnitude

Every finite magnitude is a whole number of units of `10 ^ -1074`. The decimals
that are read back as the magnitude fill a window around it, which is measured
in quarters of the unit so that its ends are whole numbers as well. The search
goes from coarse to fine decimal places and stops at the first place where one
of the two neighbours of the magnitude lies in the window.

## Implementation notes

At the finest place the magnitude itself is a neighbour, so the search needs no
bound on the number of digits and no fallback.
-/

namespace LineCalc.Decimal

open Binary64

/-- The decimal `digits * 10 ^ exponent`. -/
structure Scaled where
  digits : Nat
  exponent : Int
deriving Repr, DecidableEq

/-- The unit of the significand in units of `10 ^ -1074`. -/
def unit : Nat := Nat.pow 5 1074

/-- The decimals that are read back as one magnitude, in quarters of a unit. -/
structure Window where
  low : Nat
  high : Nat
  closed : Bool

/-- Whether a number of quarter units lies in the window. -/
def Window.contains (window : Window) (x : Nat) : Bool :=
  if window.closed then window.low ≤ x && x ≤ window.high
  else window.low < x && x < window.high

/-- The window of a magnitude. It reaches half way to each neighbour; the lower
neighbour of a power of two is nearer, except at the bottom of the range. The
ends belong to the window of the even significand. -/
def windowOf (significand shift : Nat) : Window :=
  let below := if significand = leadingBit ∧ 0 < shift then 1 else 2
  { low := (4 * significand - below) * Nat.pow 2 shift * unit
    high := (4 * significand + 2) * Nat.pow 2 shift * unit
    closed := significand % 2 == 0 }

/-- The neighbour of `value` at a decimal place that lies in the window: of two
the nearer, and of two equally near the even one. -/
def neighbour? (window : Window) (value place : Nat) : Option Nat :=
  let step := Nat.pow 10 place
  let below := value / step
  let left := window.contains (4 * (below * step))
  let right := window.contains (4 * ((below + 1) * step))
  if left && right then some (roundDiv value step)
  else if left then some below
  else if right then some (below + 1)
  else none

/-- The first neighbour in the window, from a place down to the finest. -/
def search (window : Window) (value : Nat) : (place : Nat) → Nat × Nat
  | 0 => (value, 0)
  | place + 1 =>
      match neighbour? window value (place + 1) with
      | some digits => (digits, place + 1)
      | none => search window value place

/-- The number of decimal digits of a natural number. -/
def decimalLength (n : Nat) : Nat :=
  if n < 10 then 1 else decimalLength (n / 10) + 1
termination_by n

/-- The shortest decimal that is read back as the magnitude. -/
def shortest (significand shift : Nat) : Scaled :=
  let value := significand * Nat.pow 2 shift * unit
  let found := search (windowOf significand shift) value (decimalLength value - 1)
  ⟨found.1, (found.2 : Int) - 1074⟩

end LineCalc.Decimal
