/-!
# Classes of characters given by ranges of code points

A class of the Unicode character database is kept as the list of its closed
ranges of code points. Membership asks every range, so the order of a table
carries no meaning.
-/

namespace LineCalc.Text

/-- A closed range of code points. -/
structure CodeRange where
  first : Nat
  last : Nat

namespace CodeRange

/-- Whether a character lies in the range, both ends included. -/
def contains (range : CodeRange) (c : Char) : Bool :=
  range.first ≤ c.toNat && c.toNat ≤ range.last

end CodeRange

/-- Whether a character lies in one of the ranges of a table. -/
def inTable (table : List CodeRange) (c : Char) : Bool :=
  table.any fun range => range.contains c

end LineCalc.Text
