/-!
# Marked-up labels

A label may hold style tags, which are lower-case words or marks between square
brackets and are not shown. Backslashes in front of a tag are read in pairs; an
odd one turns the tag into plain text. A bracket that begins no tag is plain
text, and one backslash in front of it is dropped. Escaping a text puts a
backslash in front of what would be a tag.
-/

namespace LineCalc.Markup

/-- Whether a character may follow the bracket that begins a tag. -/
def opensTag (c : Char) : Bool := ('a' ≤ c && c ≤ 'z') || c == '#' || c == '/' || c == '@'

/-- The inside of the tag whose opening bracket stands in front of the text. -/
def tagBody? : List Char → Option (List Char)
  | [] => none
  | c :: rest =>
      if opensTag c then
        let body := rest.takeWhile fun d => d != '[' && d != ']'
        match rest.drop body.length with
        | ']' :: _ => some (c :: body)
        | _ => none
      else none

/-- A label cut at its tags. -/
inductive Piece where
  | plain (c : Char)
  /-- A bracket that begins no tag, behind some backslashes. -/
  | bracket (slashes : Nat)
  /-- A tag behind some backslashes. -/
  | tag (slashes : Nat) (body : List Char)
deriving Repr, DecidableEq

/-- A row of backslashes. -/
def backslashes (n : Nat) : List Char := List.replicate n '\\'

/-- The pieces of a label of which `slashes` backslashes have just been passed. -/
def pieces (slashes : Nat) (cs : List Char) : List Piece :=
  match cs with
  | [] => (backslashes slashes).map .plain
  | c :: rest =>
      if c = '\\' then pieces (slashes + 1) rest
      else if c = '[' then
        match tagBody? rest with
        | some body => .tag slashes body :: pieces 0 (rest.drop (body.length + 1))
        | none => .bracket slashes :: pieces 0 rest
      else (backslashes slashes).map .plain ++ .plain c :: pieces 0 rest
termination_by cs.length
decreasing_by
  all_goals simp only [List.length_cons, List.length_drop]; omega

namespace Piece

/-- A piece as it is shown. -/
def shown : Piece → List Char
  | plain c => [c]
  | bracket slashes => backslashes (slashes - 1) ++ ['[']
  | tag slashes body =>
      backslashes (slashes / 2) ++ if slashes % 2 = 1 then '[' :: body ++ [']'] else []

/-- A piece written so that it is shown as it stands. -/
def escaped : Piece → List Char
  | plain c => [c]
  | bracket slashes => backslashes slashes ++ ['[']
  | tag slashes body => backslashes (2 * slashes + 1) ++ '[' :: body ++ [']']

end Piece

/-- The text of a label that is shown. -/
def shown (label : List Char) : List Char := (pieces 0 label).flatMap Piece.shown

/-- A lone backslash at the end of a text is doubled, so that it does not reach
into what follows. -/
def guardEnd (cs : List Char) : List Char :=
  match cs.reverse with
  | '\\' :: '\\' :: _ => cs
  | '\\' :: _ => cs ++ ['\\']
  | _ => cs

/-- A text written so that its brackets are not taken for tags. -/
def escape (text : List Char) : List Char :=
  guardEnd ((pieces 0 text).flatMap Piece.escaped)

/-- A text in a style. -/
def styled (style : String) (text : List Char) : List Char :=
  '[' :: style.toList ++ ']' :: text ++ '[' :: '/' :: style.toList ++ [']']

end LineCalc.Markup
