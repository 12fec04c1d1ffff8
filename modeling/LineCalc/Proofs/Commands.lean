import LineCalc.Command.Invocation
import LineCalc.Proofs.FailingLines
import LineCalc.Proofs.NumberTexts

/-!
# Agreement of the commands

Three commands take a line: one evaluates it, one shows its program, and one shows
its tokens. Each of them fails exactly if the line does not get through the stages
the command asks for, and every command that fails on a line ends as its evaluation
does. Written as JSON, a value or an error is the one that is written as text.

## Implementation notes

The commands find their settings on their own, and only the one that evaluates a line
chooses a division policy. A line is read in the same way under any policy, so the
errors of reading it can be compared between the commands.
-/

namespace LineCalc

namespace Error

/-- The error of a line that is not split into tokens. -/
def IsLex (error : Error) : Prop := ∃ cause, error = .lex cause

/-- The error of a line that is not read as a program. -/
def IsReading (error : Error) : Prop := error.IsLex ∨ ∃ cause, error = .parse cause

end Error

namespace Line

variable {rule : WordRule} {settings : Settings} {source : String} {d : Diagnostic}

/-- The errors of reading a line are those it ends with before it is evaluated. -/
theorem program_eq_error_iff :
    program settings.wordRule source = .error d ↔
      evaluate settings source = .error d ∧ d.error.IsReading := by
  constructor
  · intro h
    refine ⟨by simp only [evaluate, h], ?_⟩
    cases unread_of_program h with
    | lex _ _ => exact Or.inl ⟨_, rfl⟩
    | parse _ _ _ => exact Or.inr ⟨_, rfl⟩
  · rintro ⟨h, hreading⟩
    cases hp : program settings.wordRule source with
    | error e =>
        simp only [evaluate, hp] at h
        rw [Except.error.inj h]
    | ok p =>
        simp only [evaluate, hp] at h
        split at h
        · cases h
          rcases hreading with ⟨cause, hcause⟩ | ⟨cause, hcause⟩ <;> cases hcause
        · cases h

theorem scan_eq_error_of_tokens (h : tokens rule source = .error d) :
    ∃ x, Token.scan rule source = .error x ∧ d.error = .lex x := by
  unfold tokens at h
  split at h
  · next x hx =>
      cases h
      exact ⟨x, hx, Diagnostic.ofError_error source _⟩
  · cases h

/-- The errors of splitting a line are those it ends with before it is read. -/
theorem tokens_eq_error_iff :
    tokens settings.wordRule source = .error d ↔
      evaluate settings source = .error d ∧ d.error.IsLex := by
  constructor
  · intro h
    obtain ⟨x, -, hx⟩ := scan_eq_error_of_tokens h
    exact ⟨by simp only [evaluate, program, h], x, hx⟩
  · rintro ⟨h, hlex⟩
    have hp := program_eq_error_iff.mpr ⟨h, Or.inl hlex⟩
    unfold program at hp
    split at hp
    · next e he => rw [he, Except.error.inj hp]
    · split at hp
      · cases hp
        obtain ⟨cause, hcause⟩ := hlex
        rw [Diagnostic.ofError_error] at hcause
        cases hcause
      · cases hp

/-- A line that is not read has only the events of reading it. -/
theorem events_of_program (h : program settings.wordRule source = .error d) :
    events settings source = programEvents settings.wordRule source := by
  simp only [events, h, List.append_nil]

/-- A line that is not split has only the events of splitting it. -/
theorem programEvents_of_tokens (h : tokens rule source = .error d) :
    programEvents rule source = tokenEvents rule source := by
  obtain ⟨x, hx, -⟩ := scan_eq_error_of_tokens h
  simp only [programEvents, hx, List.append_nil]

end Line

namespace Json

theorem text_ne_null {x : Float} (h : Binary64.isFinite x = true) : Decimal.text x ≠ "null" := by
  intro hnull
  have hchars : Decimal.chars x = "null".toList := by rw [← Decimal.toList_text, hnull]
  have hmem := Decimal.mem_chars_of_isFinite h
  rw [hchars] at hmem
  revert hmem
  decide

/-- A number that is finite is reported by its text, and any other one by null. -/
theorem exists_ofValue_eq (x : Float) :
    ∃ value, ofValue x = object [("value", value), ("text", quote (Decimal.text x))] ∧
      (value = "null" ↔ x.isFinite = false) ∧ (x.isFinite = true → value = Decimal.text x) := by
  refine ⟨_, rfl, ?_, ?_⟩
  · rw [← Binary64.isFinite_eq]
    cases h : Binary64.isFinite x with
    | false => simp
    | true => simpa using text_ne_null h
  · intro h
    rw [if_pos ((Binary64.isFinite_eq x).trans h)]

end Json

namespace Command

/-- The code that a command line exits with. -/
def Outcome.exitCode : Outcome → Nat
  | .usage answer => answer.exitCode
  | .ran code _ _ => code

theorem unlines_singleton (line : String) : unlines [line] = line ++ "\n" := by
  simp [unlines, String.join]

theorem unlines_append (lines more : List String) :
    unlines (lines ++ more) = unlines lines ++ unlines more := by
  rw [unlines, List.map_append]
  apply String.toList_injective
  simp [unlines]

/-- The commands that show a line or its value as text, with the same rule on words. -/
inductive Shows (line : String) (division : Option DivisionPolicy) (strict : Option Bool) :
    Command → Prop
  | eval : Shows line division strict (.eval line division strict false)
  | tree (flat : Bool) : Shows line division strict (.tree line strict flat)
  | tokens : Shows line division strict (.tokens line strict)

section

variable {settings choice : Settings} {line : String} {d : Diagnostic}

theorem runEval_of_ok {x : Float} (h : Line.evaluate settings line = .ok x) (json : Bool) :
    runEval settings line json =
      ⟨0, unlines [if json then Json.ofValue x else Decimal.text x], Line.events settings line,
        []⟩ := by
  simp only [runEval, h]

theorem runEval_of_error (h : Line.evaluate settings line = .error d) (json : Bool) :
    runEval settings line json =
      if json then ⟨1, unlines [Json.ofError d.error], Line.events settings line, []⟩
      else .failed (Line.events settings line) d := by
  simp only [runEval, h]

/-- Evaluating a line gives the exit code zero if it has a value, and one if it fails. -/
theorem runEval_exitCode_iff (settings : Settings) (line : String) (json : Bool) :
    ((runEval settings line json).exitCode = 0 ↔ ∃ x, Line.evaluate settings line = .ok x) ∧
    ((runEval settings line json).exitCode = 1 ↔ ∃ d, Line.evaluate settings line = .error d) := by
  cases h : Line.evaluate settings line with
  | ok x => simp [runEval_of_ok h]
  | error d => cases json <;> simp [runEval_of_error h, Report.failed]

/-- Showing the program of a line fails if the line is not read. -/
theorem runTree_exitCode_eq_one_iff (hrule : choice.wordRule = settings.wordRule) (flat : Bool) :
    (runTree choice line flat).exitCode = 1 ↔
      ∃ d, Line.evaluate settings line = .error d ∧ d.error.IsReading := by
  simp only [← Line.program_eq_error_iff, ← hrule]
  cases h : Line.program choice.wordRule line with
  | ok p => simp [runTree, h]
  | error d => simp [runTree, h, Report.failed]

/-- Showing the tokens of a line fails if the line is not split. -/
theorem runTokens_exitCode_eq_one_iff (hrule : choice.wordRule = settings.wordRule) :
    (runTokens choice line).exitCode = 1 ↔
      ∃ d, Line.evaluate settings line = .error d ∧ d.error.IsLex := by
  simp only [← Line.tokens_eq_error_iff, ← hrule]
  cases h : Line.tokens choice.wordRule line with
  | ok ts => simp [runTokens, h]
  | error d => simp [runTokens, h, Report.failed]

theorem runTree_of_error (hrule : choice.wordRule = settings.wordRule) (flat : Bool)
    (h : Line.evaluate settings line = .error d) (hreading : d.error.IsReading) :
    runTree choice line flat = .failed (Line.events settings line) d := by
  have hprogram := Line.program_eq_error_iff.mpr ⟨h, hreading⟩
  simp only [runTree, hrule, hprogram, Line.events_of_program hprogram]

theorem runTokens_of_error (hrule : choice.wordRule = settings.wordRule)
    (h : Line.evaluate settings line = .error d) (hlex : d.error.IsLex) :
    runTokens choice line = .failed (Line.events settings line) d := by
  have htokens := Line.tokens_eq_error_iff.mpr ⟨h, hlex⟩
  have hprogram := Line.program_eq_error_iff.mpr ⟨h, Or.inl hlex⟩
  simp only [runTokens, hrule, htokens, Line.events_of_program hprogram,
    Line.programEvents_of_tokens htokens]

end

variable {host : Host} {vars : Variables} {input : Input} {level : LogLevel}
  {before : List String} {line : String} {division : Option DivisionPolicy}
  {strict : Option Bool} {command : Command}

/-- The settings that a line is evaluated under. -/
def evalSettings (vars : Variables) (division : Option DivisionPolicy) (strict : Option Bool) :
    Settings :=
  (Settings.read vars).override division strict

/-- What evaluating a line under settings writes to the error stream before an error,
each line of it with a line feed behind it. -/
def evalLog (host : Host) (vars : Variables) (level : LogLevel) (before : List String)
    (settings : Settings) (line : String) : String :=
  String.join ((before ++ records host level (Settings.readEvents vars ++
    Line.events settings line)).map (· ++ "\n"))

theorem Shows.wordRule_eq (h : Shows line division strict command) (vars : Variables) :
    (command.settings vars).wordRule = (evalSettings vars division strict).wordRule := by
  have hstrict : (command.settings vars).strictLexer =
      (evalSettings vars division strict).strictLexer := by cases h <;> rfl
  rw [Settings.wordRule, Settings.wordRule, hstrict]

theorem run_of_report {settings : Settings} {code : Nat} {stdout : String} {failure : List String}
    (h : command.report (command.settings vars) input =
      ⟨code, stdout, Line.events settings line, failure⟩) :
    run host vars input level before command =
      .ran code stdout (evalLog host vars level before settings line ++ unlines failure) := by
  simp only [run, h]
  rw [unlines_append]
  rfl

theorem run_eval_of_ok {x : Float}
    (h : Line.evaluate (evalSettings vars division strict) line = .ok x) (json : Bool) :
    run host vars input level before (.eval line division strict json) =
      .ran 0 ((if json then Json.ofValue x else Decimal.text x) ++ "\n")
        (evalLog host vars level before (evalSettings vars division strict) line) := by
  have hreport : (Command.eval line division strict json).report
      ((Command.eval line division strict json).settings vars) input = _ := runEval_of_ok h json
  rw [run_of_report hreport, unlines_singleton]
  exact congrArg _ String.append_empty

theorem run_eval_json_of_error {d : Diagnostic}
    (h : Line.evaluate (evalSettings vars division strict) line = .error d) :
    run host vars input level before (.eval line division strict true) =
      .ran 1 (Json.ofError d.error ++ "\n")
        (evalLog host vars level before (evalSettings vars division strict) line) := by
  have hreport : (Command.eval line division strict true).report
      ((Command.eval line division strict true).settings vars) input = _ :=
    runEval_of_error h true
  rw [run_of_report hreport, unlines_singleton]
  exact congrArg _ String.append_empty

/-- A command that fails on a line fails as the evaluation of the line does: with the
same error, and after the same events. -/
theorem Shows.run_of_failed (h : Shows line division strict command)
    (hexit : (run host vars input level before command).exitCode = 1) :
    ∃ d, Line.evaluate (evalSettings vars division strict) line = .error d ∧
      run host vars input level before command =
        .ran 1 "" (evalLog host vars level before (evalSettings vars division strict) line ++
          (d.text ++ "\n")) := by
  have hrule := h.wordRule_eq vars
  simp only [← unlines_singleton]
  cases h with
  | eval =>
      obtain ⟨d, hd⟩ := (runEval_exitCode_iff _ _ _).2.mp hexit
      exact ⟨d, hd, run_of_report (runEval_of_error hd false)⟩
  | tree flat =>
      obtain ⟨d, hd, hreading⟩ := (runTree_exitCode_eq_one_iff hrule flat).mp hexit
      exact ⟨d, hd, run_of_report (runTree_of_error hrule flat hd hreading)⟩
  | tokens =>
      obtain ⟨d, hd, hlex⟩ := (runTokens_exitCode_eq_one_iff hrule).mp hexit
      exact ⟨d, hd, run_of_report (runTokens_of_error hrule hd hlex)⟩

/-- The outcomes of the commands on a line agree with its evaluation under the settings.
In `log` is what evaluating it writes to the error stream before an error. -/
structure Agree (settings : Settings) (log : String) (line : String)
    (division : Option DivisionPolicy) (strict : Option Bool) (outcome : Command → Outcome) :
    Prop where
  eval_exit_iff : ∀ json, (outcome (.eval line division strict json)).exitCode = 0 ↔
    ∃ x, Line.evaluate settings line = .ok x
  value_text : ∀ x, Line.evaluate settings line = .ok x →
    outcome (.eval line division strict false) = .ran 0 (Decimal.text x ++ "\n") log
  value_json : ∀ x, Line.evaluate settings line = .ok x →
    ∃ value, outcome (.eval line division strict true) =
        .ran 0 (Json.object [("value", value), ("text", Json.quote (Decimal.text x))] ++ "\n")
          log ∧
      (value = "null" ↔ x.isFinite = false) ∧ (x.isFinite = true → value = Decimal.text x)
  tree_exit_iff : ∀ flat, (outcome (.tree line strict flat)).exitCode = 1 ↔
    ∃ d, Line.evaluate settings line = .error d ∧ d.error.IsReading
  tokens_exit_iff : (outcome (.tokens line strict)).exitCode = 1 ↔
    ∃ d, Line.evaluate settings line = .error d ∧ d.error.IsLex
  error_text : ∀ command, Shows line division strict command → (outcome command).exitCode = 1 →
    ∃ d, Line.evaluate settings line = .error d ∧
      outcome command = .ran 1 "" (log ++ (d.text ++ "\n"))
  error_same : ∀ first second, Shows line division strict first →
    Shows line division strict second → (outcome first).exitCode = 1 →
    (outcome second).exitCode = 1 → outcome first = outcome second
  json_exit_iff : (outcome (.eval line division strict true)).exitCode = 1 ↔
    (outcome (.eval line division strict false)).exitCode = 1
  error_json : ∀ d, Line.evaluate settings line = .error d →
    outcome (.eval line division strict true) =
      .ran 1 (Json.object [("error", Json.object
        [("stage", Json.quote d.error.stage), ("kind", Json.quote d.error.kind),
          ("message", Json.quote d.error.message)])] ++ "\n") log

/-- The commands agree on every line, under all variables and choices of options. -/
theorem commands_agree (host : Host) (vars : Variables) (input : Input) (level : LogLevel)
    (before : List String) (line : String) (division : Option DivisionPolicy)
    (strict : Option Bool) :
    Agree (evalSettings vars division strict)
      (evalLog host vars level before (evalSettings vars division strict) line)
      line division strict (run host vars input level before) := by
  have heval := runEval_exitCode_iff (evalSettings vars division strict) line
  have htree : Shows line division strict (.tree line strict false) := .tree false
  have htokens : Shows line division strict (.tokens line strict) := .tokens
  refine
    { eval_exit_iff := fun json => (heval json).1
      value_text := fun x hx => run_eval_of_ok hx false
      value_json := ?_
      tree_exit_iff := runTree_exitCode_eq_one_iff (htree.wordRule_eq vars)
      tokens_exit_iff := runTokens_exitCode_eq_one_iff (htokens.wordRule_eq vars)
      error_text := fun command hshows hexit => hshows.run_of_failed hexit
      error_same := ?_
      json_exit_iff := (heval true).2.trans (heval false).2.symm
      error_json := fun d hd => run_eval_json_of_error hd }
  · intro x hx
    obtain ⟨value, hvalue, hnull⟩ := Json.exists_ofValue_eq x
    exact ⟨value, hvalue ▸ run_eval_of_ok hx true, hnull⟩
  · intro first second hfirst hsecond hexit hexit'
    obtain ⟨d, hd, hrun⟩ := hfirst.run_of_failed hexit
    obtain ⟨e, he, hrun'⟩ := hsecond.run_of_failed hexit'
    rw [hrun, hrun', Except.error.inj (hd.symm.trans he)]

/-- The line `(1` is not read, so showing its program and evaluating it end alike. -/
theorem commands_agree_unclosed :
    let outcome := run ⟨"", "", ""⟩ (fun _ => none) ⟨[], .endOfInput⟩ .warning []
    (outcome (.tree "(1" none true)).exitCode = 1 ∧
      (outcome (.eval "(1" none none false)).exitCode = 1 ∧
      outcome (.tree "(1" none true) = outcome (.eval "(1" none none false) := by
  intro outcome
  have htree : (outcome (.tree "(1" none true)).exitCode = 1 := by decide +kernel
  have heval : (outcome (.eval "(1" none none false)).exitCode = 1 := by decide +kernel
  have hagree := commands_agree ⟨"", "", ""⟩ (fun _ => none) ⟨[], .endOfInput⟩ .warning [] "(1"
    none none
  exact ⟨htree, heval, hagree.error_same _ _ (.tree true) .eval htree heval⟩

end Command

end LineCalc
