/-!
# Runs of letters with a common case mapping

Most letters change case by a fixed distance. A run lists letters at a fixed
stride, together with the image of its first letter; the image of any other
letter of the run lies at the same distance.
-/

namespace LineCalc.Text

/-- The letters `first, first + stride, …, last`, sent to `image` onwards. -/
structure LetterRun where
  first : Nat
  last : Nat
  stride : Nat
  image : Nat

namespace LetterRun

/-- Whether a code point is one of the letters of the run. -/
def contains (run : LetterRun) (n : Nat) : Bool :=
  run.first ≤ n && n ≤ run.last && (n - run.first) % run.stride == 0

/-- The image of a letter of the run. -/
def apply (run : LetterRun) (n : Nat) : Nat := run.image + (n - run.first)

end LetterRun

/-- The image of a code point under a table of runs; other code points stay. -/
def mapByRuns (table : List LetterRun) (n : Nat) : Nat :=
  match table.find? fun run => run.contains n with
  | some run => run.apply n
  | none => n

end LineCalc.Text
