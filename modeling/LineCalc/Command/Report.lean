import LineCalc.Command.Arguments
import LineCalc.Display.Json
import LineCalc.Display.Outline
import LineCalc.Display.Table
import LineCalc.Session

/-!
# What commands report

A command writes its result to the output stream. An error in a line goes to the
error stream and gives the exit code one; an interrupted session gives the exit
code 130. The events of a command are reported beside what it writes.

## Implementation notes

A program is shown in its rendered form whatever number of calls this takes. What
becomes of rendering under a limit is the matter of `Program.renderWithin`.
-/

namespace LineCalc.Command

/-- What a command can read. -/
structure Input where
  lines : List String
  ending : Session.Ending

/-- The input of a text. It may be interrupted after a number of lines, if it has
that many. -/
def Input.ofText (text : String) (interruptAfter : Option Nat) : Input :=
  let lines := Session.splitLines text
  match interruptAfter with
  | some n =>
      if n ≤ lines.length then ⟨lines.take n, .interrupt⟩ else ⟨lines, .endOfInput⟩
  | none => ⟨lines, .endOfInput⟩

/-- Lines of text, each ended by a line feed. -/
def unlines (lines : List String) : String := String.join (lines.map (· ++ "\n"))

/-- What a command writes, and the code it exits with. -/
structure Report where
  exitCode : Nat
  stdout : String
  /-- The events of the command. -/
  events : List Event
  /-- What is written to the error stream behind the records. -/
  failure : List String

/-- The report of an error in a line. -/
def Report.failed (events : List Event) (d : Diagnostic) : Report := ⟨1, "", events, [d.text]⟩

/-- Evaluate a line and report its value or its error. -/
def runEval (settings : Settings) (line : String) (json : Bool) : Report :=
  let events := Line.events settings line
  match Line.evaluate settings line with
  | .ok x => ⟨0, unlines [if json then Json.ofValue x else Decimal.text x], events, []⟩
  | .error d =>
      if json then ⟨1, unlines [Json.ofError d.error], events, []⟩ else Report.failed events d

/-- Report the tokens of a line as a table. -/
def runTokens (settings : Settings) (line : String) : Report :=
  let events := Line.tokenEvents settings.wordRule line
  match Line.tokens settings.wordRule line with
  | .ok ts => ⟨0, unlines (Table.ofTokens ts).lines, events, []⟩
  | .error d => Report.failed events d

/-- Report the program of a line as an outline or in its rendered form. -/
def runTree (settings : Settings) (line : String) (flat : Bool) : Report :=
  let events := Line.programEvents settings.wordRule line
  match Line.program settings.wordRule line with
  | .ok p => ⟨0, unlines (if flat then [p.render] else (Outline.ofProgram p).lines), events, []⟩
  | .error d => Report.failed events d

/-- What a session writes for one read. -/
def readText : Option String → String
  | some answer => Session.promptText ++ answer ++ "\n"
  | none => Session.promptText

/-- Report a session over the input. -/
def runRepl (settings : Settings) (input : Input) : Report :=
  let transcript := Session.run settings input.ending input.lines
  let stdout := String.join (transcript.reads.map readText)
  if transcript.interrupted then ⟨130, stdout ++ "\n", transcript.events, []⟩
  else ⟨0, stdout, transcript.events, []⟩

/-- The division policy a command chooses. -/
def division : Command → Option DivisionPolicy
  | eval _ division _ _ => division
  | repl division _ => division
  | _ => none

/-- The rule on words a command chooses. -/
def strict : Command → Option Bool
  | eval _ _ strict _ => strict
  | tokens _ strict => strict
  | tree _ strict _ => strict
  | repl _ strict => strict

/-- The settings of a command: its own choices win over the variables. -/
def settings (vars : Variables) (command : Command) : Settings :=
  (Settings.read vars).override command.division command.strict

/-- Run a command under settings. -/
def report (settings : Settings) (input : Input) : Command → Report
  | eval line _ _ json => runEval settings line json
  | tokens line _ => runTokens settings line
  | tree line _ flat => runTree settings line flat
  | repl _ _ => runRepl settings input

end LineCalc.Command
