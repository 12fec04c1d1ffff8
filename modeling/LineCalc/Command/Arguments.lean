import LineCalc.Command.Options
import LineCalc.Division

/-!
# Commands and their arguments

There are four commands: evaluate a line, show its tokens, show its program, and
run a session. A command whose arguments are not understood, or that is asked
for help, is answered with the usage.
-/

namespace LineCalc

/-- What a command line asks for beside running a command. -/
inductive Usage where
  | help
  | misuse
deriving Repr, DecidableEq

/-- The exit code of an answer with the usage. -/
def Usage.exitCode : Usage → Nat
  | help => 0
  | misuse => 2

/-- A command with its options. -/
inductive Command where
  | eval (line : String) (division : Option DivisionPolicy) (strict : Option Bool) (json : Bool)
  | tokens (line : String) (strict : Option Bool)
  | tree (line : String) (strict : Option Bool) (flat : Bool)
  | repl (division : Option DivisionPolicy) (strict : Option Bool)
deriving Repr, DecidableEq

namespace Command

open Options

/-- The options of commands. -/
inductive Key where
  | division
  | strict
  | noStrict
  | json
  | flat
  | help
deriving Repr, DecidableEq

/-- The option that chooses a division policy. -/
def divisionRule : Rule Key := ⟨.division, ["--division", "-d"], true⟩

/-- The options every command has. -/
def sharedRules : List (Rule Key) :=
  [⟨.strict, ["--strict"], false⟩, ⟨.noStrict, ["--no-strict"], false⟩, ⟨.help, ["--help"], false⟩]

/-- The division policy that is chosen last, if any is. -/
def division? (parsed : Parsed Key) : Except Usage (Option DivisionPolicy) :=
  match parsed.value? .division with
  | none => .ok none
  | some text =>
      match DivisionPolicy.ofName? text with
      | some policy => .ok (some policy)
      | none => .error .misuse

/-- The rule on words that is chosen last, if any is. -/
def strict? (parsed : Parsed Key) : Option Bool :=
  ((parsed.options.filter fun option => option.key = .strict ∨ option.key = .noStrict).getLast?).map
    fun option => option.key = .strict

/-- The one argument of a command. -/
def line? (parsed : Parsed Key) : Except Usage String :=
  match parsed.operands with
  | [line] => .ok line
  | _ => .error .misuse

/-- Read the arguments of a command; asking for help comes before other faults
than those of the options themselves. -/
def readWith (rules : List (Rule Key)) (args : List String)
    (build : Parsed Key → Except Usage Command) : Except Usage Command :=
  match parse? (rules ++ sharedRules) true args with
  | none => .error .misuse
  | some parsed => if parsed.has .help then .error .help else build parsed

/-- Read the arguments of the command that evaluates a line. -/
def readEval (args : List String) : Except Usage Command :=
  readWith [divisionRule, ⟨.json, ["--json"], false⟩] args fun parsed => do
    let line ← line? parsed
    let division ← division? parsed
    return .eval line division (strict? parsed) (parsed.has .json)

/-- Read the arguments of the command that shows tokens. -/
def readTokens (args : List String) : Except Usage Command :=
  readWith [] args fun parsed => do
    let line ← line? parsed
    return .tokens line (strict? parsed)

/-- Read the arguments of the command that shows a program. -/
def readTree (args : List String) : Except Usage Command :=
  readWith [⟨.flat, ["--flat"], false⟩] args fun parsed => do
    let line ← line? parsed
    return .tree line (strict? parsed) (parsed.has .flat)

/-- Read the arguments of the command that runs a session. -/
def readRepl (args : List String) : Except Usage Command :=
  readWith [divisionRule] args fun parsed => do
    if parsed.operands.isEmpty then
      let division ← division? parsed
      return .repl division (strict? parsed)
    else throw .misuse

/-- The reader of the arguments of a command, by the name of the command. -/
def reader? : String → Option (List String → Except Usage Command)
  | "eval" => some readEval
  | "tokens" => some readTokens
  | "tree" => some readTree
  | "repl" => some readRepl
  | _ => none

end Command

end LineCalc
