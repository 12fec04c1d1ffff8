/-!
# The release

The version of a release is recorded where it is installed, or else in the
description of its sources.
-/

namespace LineCalc.Release

/-- The version of this release. -/
def current : String := "0.1.0"

/-- The version that is reported, given the two places where it may be recorded. -/
def version (installed described : Option String) : String :=
  match installed with
  | some version => version
  | none => described.getD "0+unknown"

end LineCalc.Release
