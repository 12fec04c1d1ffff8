import LineCalc.Error

/-!
# Errors shown in their line

A marker shows a line with carets under the span in question. A diagnostic is
an error together with its marker, if the error points at a position.
-/

namespace LineCalc

/-- A span of a line, given by its first column, counted from one, and its width. -/
structure Marker where
  source : String
  column : Int
  length : Int
deriving Repr, DecidableEq

namespace Marker

/-- What stands in front of a line that is shown. -/
def margin : String := "  | "

/-- The row of carets below the line; a span has at least one caret. -/
def carets (marker : Marker) : String :=
  String.ofList
    (List.replicate (margin.length + marker.column - 1).toNat ' ' ++
      List.replicate (max 1 marker.length).toNat '^')

/-- The column, the line, and the carets below it. -/
def text (marker : Marker) : String :=
  "col " ++ toString marker.column ++ "\n" ++ margin ++ marker.source ++ "\n" ++ marker.carets

end Marker

/-- An error and the place it is shown at. -/
structure Diagnostic where
  error : Error
  marker : Option Marker

namespace Diagnostic

/-- An error that has not been placed in a line. -/
def unplaced (error : Error) : Diagnostic := ⟨error, none⟩

/-- The width of the span of an error: that of its token, if the token has text. -/
def width (error : Error) : Int :=
  match error.token? with
  | some token => if token.text.isEmpty then 1 else token.text.length
  | none => 1

/-- Place an error in a line, unless it is placed already or points nowhere. -/
def locate (source : String) (diagnostic : Diagnostic) : Diagnostic :=
  match diagnostic.marker, diagnostic.error.pos? with
  | none, some pos => ⟨diagnostic.error, some ⟨source, pos + 1, width diagnostic.error⟩⟩
  | _, _ => diagnostic

/-- An error placed in the line it was found in. -/
def ofError (source : String) (error : Error) : Diagnostic := (unplaced error).locate source

/-- Replace the place of an error. -/
def mark (marker : Marker) (diagnostic : Diagnostic) : Diagnostic :=
  ⟨diagnostic.error, some marker⟩

/-- The summary of the error, followed by its marker if it has one. -/
def text (diagnostic : Diagnostic) : String :=
  match diagnostic.marker with
  | none => diagnostic.error.summary
  | some marker => diagnostic.error.summary ++ "\n" ++ marker.text

@[simp] theorem locate_error (source : String) (diagnostic : Diagnostic) :
    (diagnostic.locate source).error = diagnostic.error := by
  unfold locate
  split <;> rfl

@[simp] theorem ofError_error (source : String) (error : Error) :
    (ofError source error).error = error := by
  simp [ofError, unplaced]

end Diagnostic

end LineCalc
