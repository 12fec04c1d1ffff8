import LineCalc.Division
import LineCalc.Log.Level

/-!
# Events

What happens while a line is read and evaluated, and while settings are read.
An event holds the facts; its level, the name of the part that reports it, and
its wording are functions of it.
-/

namespace LineCalc

/-- Something worth a record in the log. -/
inductive Event where
  | tokenized (characters tokens : Nat)
  | definitionRead (name : String)
  | evaluating (definitions : Nat) (policy : DivisionPolicy)
  | shadowed (name : String)
  | inputEnded (lines : Nat)
  | lineFailed (stage kind : String)
  | unknownDivision (value : String)
  | unknownStrictLexer (value : String)
  | unknownLogLevel (value : String)
deriving Repr, DecidableEq

namespace Event

/-- The level of an event. Only settings that are not understood are worth a warning. -/
def level : Event → LogLevel
  | unknownDivision _ => .warning
  | unknownStrictLexer _ => .warning
  | unknownLogLevel _ => .warning
  | _ => .debug

/-- The name of the part that reports an event. -/
def reporter : Event → String
  | tokenized _ _ => "pocketcalc.core.expression_lang.tokenizer"
  | definitionRead _ => "pocketcalc.core.expression_lang.parser"
  | evaluating _ _ => "pocketcalc.core.expression_lang.evaluator"
  | shadowed _ => "pocketcalc.core.expression_lang.evaluator"
  | inputEnded _ => "pocketcalc.core.runner"
  | lineFailed _ _ => "pocketcalc.core.runner"
  | unknownDivision _ => "pocketcalc.core.environment"
  | unknownStrictLexer _ => "pocketcalc.core.environment"
  | unknownLogLevel _ => "pocketcalc.core.environment"

/-- The wording of an event. -/
def message : Event → String
  | tokenized characters tokens =>
      "Tokenized " ++ toString characters ++ " characters into " ++ toString tokens ++ " tokens"
  | definitionRead name => "Parsed binding for " ++ Text.quote name
  | evaluating definitions policy =>
      "Evaluating " ++ toString definitions ++ " statement(s) with division policy " ++ policy.name
  | shadowed name => "Shadowing binding for " ++ Text.quote name
  | inputEnded lines => "End of input after " ++ toString lines ++ " line(s)"
  | lineFailed stage kind => "Line failed at " ++ stage ++ " stage: " ++ kind
  | unknownDivision value =>
      "Unknown POCKETCALC_DIVISION value '" ++ value ++
        "'. Valid values: error, ieee. Defaulting to error."
  | unknownStrictLexer value =>
      "Unknown POCKETCALC_STRICT_LEXER value '" ++ value ++ "'. Defaulting to false."
  | unknownLogLevel value =>
      "Unknown POCKETCALC_LOG_LEVEL value '" ++ value ++ "'. Defaulting to WARNING."

/-- An event as a record without a time. -/
def record (event : Event) : String :=
  event.level.name ++ " " ++ event.reporter ++ ": " ++ event.message

end Event

end LineCalc
