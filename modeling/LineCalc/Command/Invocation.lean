import LineCalc.Command.Report
import LineCalc.Release

/-!
# Command lines

Options in front of a command ask for the version or the usage, or choose the
log level. The records of a command that the level lets through are written to
the error stream, in front of the error the command may end with.

## Implementation notes

Settings are read twice: once for the log level, unless one is given, and once
by the command. Warnings of the first reading come before the log is set up and
are written without time and level; those of the second are records like others.

The options for completion in a shell are known by name, so that the version and
the usage can be asked for beside them. There is no shell to complete for here,
and a command line that asks for completion itself is misuse.
-/

namespace LineCalc.Command

open Options

/-- The options in front of a command. -/
inductive GlobalKey where
  | version
  | logLevel
  | completion
  | help
deriving Repr, DecidableEq

/-- The options in front of a command, with their names. -/
def globalRules : List (Rule GlobalKey) :=
  [⟨.version, ["--version", "-v"], false⟩, ⟨.logLevel, ["--log-level"], true⟩,
    ⟨.completion, ["--install-completion", "--show-completion"], false⟩,
    ⟨.help, ["--help"], false⟩]

/-- Where a command runs. -/
structure Host where
  /-- The name of the language implementation. -/
  implementation : String
  /-- The name of the operating system. -/
  platform : String
  /-- The time shown in front of records. -/
  time : String

/-- What becomes of a command line. -/
inductive Outcome where
  | usage (usage : Usage)
  | ran (exitCode : Nat) (stdout stderr : String)
deriving Repr, DecidableEq

/-- The records that are shown at a level. -/
def records (host : Host) (level : LogLevel) (events : List Event) : List String :=
  (events.filter fun event => level.shows event.level).map fun event =>
    host.time ++ " " ++ event.record

/-- The result of a command whose log is shown from the given level on. Lines
in `before` have been written to the error stream already. -/
def run (host : Host) (vars : Variables) (input : Input) (level : LogLevel)
    (before : List String) (command : Command) : Outcome :=
  let report := command.report (command.settings vars) input
  let events := Settings.readEvents vars ++ report.events
  .ran report.exitCode report.stdout
    (unlines (before ++ records host level events ++ report.failure))

/-- The lines of the version report. -/
def versionLines (host : Host) (settings : Settings) : List String :=
  ["pocketcalc version " ++ Release.version (some Release.current) none,
    "",
    "Environment:",
    "  Python:        " ++ host.implementation,
    "  Platform:      " ++ host.platform,
    "",
    "Settings:",
    "  Division:      " ++ settings.division.name,
    "  Strict lexer:  " ++ (if settings.strictLexer then "yes" else "no"),
    "  Log level:     " ++ settings.logLevel.name]

/-- The result of asking for the version. -/
def versionOutcome (host : Host) (vars : Variables) : Outcome :=
  .ran 0 (unlines (versionLines host (Settings.read vars)))
    (unlines ((Settings.readEvents vars).map Event.message))

/-- The log level given by an option, or else by the variables, and the lines
that finding it writes to the error stream. -/
def chooseLevel (vars : Variables) (given : Option String) :
    Except String (LogLevel × List String) :=
  match given with
  | none | some "" =>
      .ok ((Settings.read vars).logLevel, (Settings.readEvents vars).map Event.message)
  | some text =>
      match LogLevel.ofName? (Text.upper text) with
      | some level => .ok (level, [])
      | none => .error ("Unknown log level: " ++ text)

/-- The answer to options that come before everything else. The first of them counts. -/
def eager? (host : Host) (vars : Variables) (parsed : Parsed GlobalKey) : Option Outcome :=
  match parsed.options.find? fun option => option.key = .help ∨ option.key = .version with
  | none => none
  | some option =>
      if option.key = .help then some (.usage .help) else some (versionOutcome host vars)

/-- The answer to a command that does not exist. If its name looks like an
option, it is taken for one in front of the command. -/
def unknownCommand (host : Host) (vars : Variables) (args : List String) : Outcome :=
  match parse? globalRules false args with
  | none => .usage .misuse
  | some parsed => (eager? host vars parsed).getD (.usage .misuse)

/-- What a command line comes to: a result at once, or a command to be run. -/
inductive Plan where
  | finished (outcome : Outcome)
  /-- A command, the level its log is shown from, and the lines that choosing
  the level writes to the error stream. -/
  | command (level : LogLevel) (before : List String) (command : Command)

/-- Read a command line. The version and the usage come first, completion is
refused next, then the name of the command is looked up, then the log level is
chosen, and at last the arguments of the command are read. -/
def plan (host : Host) (vars : Variables) (args : List String) : Plan :=
  match parse? globalRules false args with
  | none => .finished (.usage .misuse)
  | some parsed =>
      match eager? host vars parsed with
      | some outcome => .finished outcome
      | none =>
          if parsed.has .completion then .finished (.usage .misuse)
          else
            match parsed.operands with
            | [] => .finished (.usage .misuse)
            | name :: rest =>
                match reader? name with
                | none => .finished (unknownCommand host vars parsed.operands)
                | some reader =>
                    match chooseLevel vars (parsed.value? .logLevel) with
                    | .error message => .finished (.ran 2 "" (unlines [message]))
                    | .ok (level, before) =>
                        match reader rest with
                        | .error usage => .finished (.usage usage)
                        | .ok command => .command level before command

/-- The result of a command line. -/
def invoke (host : Host) (vars : Variables) (input : Input) (args : List String) : Outcome :=
  match plan host vars args with
  | .finished outcome => outcome
  | .command level before command => command.run host vars input level before

end LineCalc.Command
