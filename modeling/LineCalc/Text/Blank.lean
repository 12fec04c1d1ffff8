/-!
# Blank characters

A blank separates tokens and is removed around a line. The class holds the
ASCII controls from tab to carriage return, the four information separators,
the next-line control, and every space, line, and paragraph separator.
-/

namespace LineCalc.Text

/-- Whether a character separates tokens and may surround a line. -/
def isBlank (c : Char) : Bool :=
  let n := c.toNat
  (9 ≤ n && n ≤ 13) || (28 ≤ n && n ≤ 32) || n == 0x85 || n == 0xA0 || n == 0x1680 ||
    (0x2000 ≤ n && n ≤ 0x200A) || n == 0x2028 || n == 0x2029 || n == 0x202F ||
    n == 0x205F || n == 0x3000

/-- A text without the leading and trailing characters of a class. -/
def trim (p : Char → Bool) (cs : List Char) : List Char :=
  ((cs.dropWhile p).reverse.dropWhile p).reverse

/-- A line without the blanks around it. -/
def strip (line : String) : String := String.ofList (trim isBlank line.toList)

@[simp] theorem toList_strip (line : String) :
    (strip line).toList = trim isBlank line.toList := by
  simp [strip]

end LineCalc.Text
