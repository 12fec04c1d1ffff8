import LineCalc.Command.Invocation

/-!
# The command

Runs a command line on the standard streams. A session answers each line as it
is read; everything else is computed first and written then.
-/

namespace LineCalc.Terminal

/-- How the command is used. -/
def usageText : String :=
  "Usage: [--version] [--log-level LEVEL] COMMAND\n\n" ++
    "Commands:\n" ++
    "  eval [--division error|ieee] [--strict|--no-strict] [--json] EXPR\n" ++
    "  tokens [--strict|--no-strict] EXPR\n" ++
    "  tree [--strict|--no-strict] [--flat] EXPR\n" ++
    "  repl [--division error|ieee] [--strict|--no-strict]\n"

/-- The environment variables that settings are read from. -/
def readVariables : IO Variables := do
  let names := ["POCKETCALC_DIVISION", "POCKETCALC_STRICT_LEXER", "POCKETCALC_LOG_LEVEL"]
  let entries ← names.mapM fun name => do return (name, ← IO.getEnv name)
  return fun name => (entries.lookup name).bind id

/-- The host at this moment. -/
def currentHost : IO Command.Host := do
  return ⟨"Lean", "native", toString (← IO.monoMsNow)⟩

/-- Write the records of events that are shown at a level. -/
def writeRecords (level : LogLevel) (events : List Event) : IO Unit := do
  IO.eprint (Command.unlines (Command.records (← currentHost) level events))

/-- Answer lines from the standard input until it ends or a line says to quit. -/
partial def converse (settings : Settings) (level : LogLevel) (count : Nat) : IO Unit := do
  IO.print Session.promptText
  (← IO.getStdout).flush
  let raw ← (← IO.getStdin).getLine
  if raw.isEmpty then
    writeRecords level [.inputEnded count]
  else
    let line := Text.strip raw
    if line ≠ Session.quitLine then
      writeRecords level (Session.answerEvents settings line)
      IO.println (Session.answer settings line)
      converse settings level (count + 1)

/-- Write the result of a command line and return its exit code. -/
def finish : Command.Outcome → IO UInt32
  | .usage .help => do
      IO.print usageText
      return 0
  | .usage .misuse => do
      IO.eprint usageText
      return 2
  | .ran exitCode stdout stderr => do
      IO.eprint stderr
      IO.print stdout
      return exitCode.toUInt32

/-- Run a command line. -/
def run (args : List String) : IO UInt32 := do
  let vars ← readVariables
  let host ← currentHost
  match Command.plan host vars args with
  | .finished outcome => finish outcome
  | .command level before command =>
      match command with
      | .repl _ _ =>
          IO.eprint (Command.unlines before)
          writeRecords level (Settings.readEvents vars)
          converse (command.settings vars) level 0
          return 0
      | _ => finish (command.run host vars ⟨[], .endOfInput⟩ level before)

end LineCalc.Terminal

/-- Run the command line of this process. -/
def main (args : List String) : IO UInt32 := LineCalc.Terminal.run args
