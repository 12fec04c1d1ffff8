import LineCalc.Line

/-!
# Sessions

A session reads lines until one of them says `quit`, until the input ends, or
until it is interrupted. Every other line is answered with the text of its value
or of its error, and none ends the session.
-/

namespace LineCalc.Session

/-- What is written before each read. -/
def promptText : String := "> "

/-- The line that ends a session. -/
def quitLine : String := "quit"

/-- The lines of a text after the characters `before` of its first line, which
are given backwards. A line ends with a line feed, a carriage return, or both. -/
def splitAfter (before : List Char) : List Char → List String
  | [] => if before.isEmpty then [] else [String.ofList before.reverse]
  | '\r' :: '\n' :: rest => String.ofList before.reverse :: splitAfter [] rest
  | c :: rest =>
      if c = '\n' ∨ c = '\r' then String.ofList before.reverse :: splitAfter [] rest
      else splitAfter (c :: before) rest

/-- The lines of a text. -/
def splitLines (text : String) : List String := splitAfter [] text.toList

/-- What comes after the last line of the input. -/
inductive Ending where
  | endOfInput
  | interrupt
deriving Repr, DecidableEq

/-- The course of a session. -/
structure Transcript where
  /-- The answer to each read; a read that ends the session has none. -/
  reads : List (Option String)
  /-- The number of lines that were answered. -/
  count : Nat
  interrupted : Bool
  events : List Event

/-- The answer to a line: the text of its value or of its error. -/
def answer (settings : Settings) (line : String) : String :=
  match Line.evaluate settings line with
  | .ok x => Decimal.text x
  | .error d => d.text

/-- The events of answering a line. -/
def answerEvents (settings : Settings) (line : String) : List Event :=
  Line.events settings line ++
    match Line.evaluate settings line with
    | .ok _ => []
    | .error d => [.lineFailed d.error.stage d.error.kind]

/-- Continue a session after `count` lines have been answered. -/
def resume (settings : Settings) (ending : Ending) (count : Nat) : List String → Transcript
  | [] =>
      match ending with
      | .endOfInput => ⟨[none], count, false, [.inputEnded count]⟩
      | .interrupt => ⟨[], count, true, []⟩
  | raw :: rest =>
      let line := Text.strip raw
      if line = quitLine then ⟨[none], count, false, []⟩
      else
        let later := resume settings ending (count + 1) rest
        { later with
          reads := some (answer settings line) :: later.reads
          events := answerEvents settings line ++ later.events }

/-- Run a session over lines. -/
def run (settings : Settings) (ending : Ending) (lines : List String) : Transcript :=
  resume settings ending 0 lines

end LineCalc.Session
