import LineCalc.Diagnostic
import LineCalc.Evaluation
import LineCalc.Program.Parser
import LineCalc.Settings

/-!
# Lines

A line is split into tokens, read as a program, and evaluated. Errors of the
first two stages are placed in the line; an evaluation error points nowhere.

## Implementation notes

The events of a line are a function beside its result. They are computed from
the tokens and the program that the result is computed from.
-/

namespace LineCalc.Line

/-- The tokens of a line. -/
def tokens (rule : WordRule) (source : String) : Except Diagnostic (List Token) :=
  match Token.scan rule source with
  | .error e => .error (.ofError source (.lex e))
  | .ok ts => .ok ts

/-- The program a line stands for. -/
def program (rule : WordRule) (source : String) : Except Diagnostic Program :=
  match tokens rule source with
  | .error d => .error d
  | .ok ts =>
      match Program.ofTokens ts with
      | .error e => .error (.ofError source (.parse e))
      | .ok p => .ok p

/-- The value of a line. -/
def evaluate (settings : Settings) (source : String) : Except Diagnostic Float :=
  match program settings.wordRule source with
  | .error d => .error d
  | .ok p =>
      match p.evaluate settings.division with
      | .error e => .error (.unplaced (.eval e))
      | .ok x => .ok x

/-- The events of splitting a line into tokens. -/
def tokenEvents (rule : WordRule) (source : String) : List Event :=
  match Token.scan rule source with
  | .error _ => []
  | .ok ts => [.tokenized source.length ts.length]

/-- The events of reading tokens. -/
def parseEvents (ts : List Token) : List Event :=
  (Program.completeDefinitions ts).map fun definition => .definitionRead definition.name

/-- The events of evaluating a program. -/
def evaluationEvents (policy : DivisionPolicy) (p : Program) : List Event :=
  .evaluating p.definitions.length policy ::
    (Definition.shadowed policy .empty p.definitions).map .shadowed

/-- The events of reading a line. -/
def programEvents (rule : WordRule) (source : String) : List Event :=
  tokenEvents rule source ++
    match Token.scan rule source with
    | .error _ => []
    | .ok ts => parseEvents ts

/-- The events of reading and evaluating a line. -/
def events (settings : Settings) (source : String) : List Event :=
  programEvents settings.wordRule source ++
    match program settings.wordRule source with
    | .error _ => []
    | .ok p => evaluationEvents settings.division p

end LineCalc.Line
