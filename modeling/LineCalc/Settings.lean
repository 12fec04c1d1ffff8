import LineCalc.Log.Event
import LineCalc.Text.Blank
import LineCalc.Text.Casing
import LineCalc.Token.Lexer

/-!
# Settings

Settings come from three environment variables. The case of a value and the
blanks around it do not matter, an empty value counts as none, and a value that
is not understood is reported and replaced by the default.
-/

namespace LineCalc

/-- The environment variables. -/
abbrev Variables := String → Option String

/-- How lines are read and evaluated, and which records are shown. -/
structure Settings where
  division : DivisionPolicy
  strictLexer : Bool
  logLevel : LogLevel
deriving Repr, DecidableEq

namespace Settings

/-- The settings without any choice. -/
def standard : Settings := ⟨.error, false, .warning⟩

/-- Which words a line may hold. -/
def wordRule (settings : Settings) : WordRule := if settings.strictLexer then .strict else .any

/-- What a variable says. -/
inductive Choice (α : Type) where
  | none
  | value (x : α)
  | unknown (text : String)
deriving Repr, DecidableEq

/-- The chosen value, or a default. -/
def Choice.getD {α : Type} (choice : Choice α) (fallback : α) : α :=
  match choice with
  | .value x => x
  | _ => fallback

/-- The event of a choice that is not understood. -/
def Choice.report {α : Type} (event : String → Event) : Choice α → List Event
  | .unknown text => [event text]
  | _ => []

/-- The value of a variable, which is empty if the variable is not set. -/
def valueOf (vars : Variables) (name : String) : String := (vars name).getD ""

/-- What the variable for the division policy says. -/
def divisionChoice (vars : Variables) : Choice DivisionPolicy :=
  let text := Text.strip (Text.lower (valueOf vars "POCKETCALC_DIVISION"))
  if text = "" then .none
  else
    match DivisionPolicy.ofName? text with
    | some policy => .value policy
    | none => .unknown text

/-- What the variable for the strict rule on words says. -/
def strictChoice (vars : Variables) : Choice Bool :=
  let text := Text.strip (Text.lower (valueOf vars "POCKETCALC_STRICT_LEXER"))
  if text = "" then .none
  else if text ∈ ["1", "true", "yes", "on"] then .value true
  else if text ∈ ["0", "false", "no", "off"] then .value false
  else .unknown text

/-- What the variable for the log level says. -/
def levelChoice (vars : Variables) : Choice LogLevel :=
  let text := Text.strip (Text.upper (valueOf vars "POCKETCALC_LOG_LEVEL"))
  if text = "" then .none
  else
    match LogLevel.ofName? text with
    | some level => .value level
    | none => .unknown text

/-- The settings the variables choose. -/
def read (vars : Variables) : Settings :=
  { division := (divisionChoice vars).getD standard.division
    strictLexer := (strictChoice vars).getD standard.strictLexer
    logLevel := (levelChoice vars).getD standard.logLevel }

/-- The events of reading the division policy alone. -/
def divisionEvents (vars : Variables) : List Event :=
  (divisionChoice vars).report .unknownDivision

/-- The events of reading all settings. -/
def readEvents (vars : Variables) : List Event :=
  divisionEvents vars ++ (strictChoice vars).report .unknownStrictLexer ++
    (levelChoice vars).report .unknownLogLevel

/-- Replace settings by those that are given. -/
def override (settings : Settings) (division : Option DivisionPolicy) (strict : Option Bool) :
    Settings :=
  { settings with
    division := division.getD settings.division
    strictLexer := strict.getD settings.strictLexer }

end Settings

end LineCalc
