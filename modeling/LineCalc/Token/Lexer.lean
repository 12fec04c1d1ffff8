import LineCalc.Error
import LineCalc.Text.Blank
import LineCalc.Decimal.Literal

/-!
# Splitting a line into tokens

Blanks separate tokens and are dropped. A digit begins a number, eight
characters are tokens of their own, and everything else begins a word. A word
reaches to the next blank or punctuation mark, or, under the strict rule, as
far as ASCII letters, digits, and underscores go; then any other character is
an error. The text of a number is kept as written.
-/

namespace LineCalc

/-- Which words a line may hold. -/
inductive WordRule where
  /-- Any run of characters that is not otherwise a token. -/
  | any
  /-- ASCII letters, digits, and underscores, not beginning with a digit. -/
  | strict
deriving Repr, DecidableEq

namespace Lexer

open Text Decimal.Literal

/-- The kind of a character that is a token of its own. -/
def punctuation? : Char → Option TokenKind
  | '+' => some .plus
  | '-' => some .minus
  | '*' => some .star
  | '/' => some .slash
  | '(' => some .lparen
  | ')' => some .rparen
  | '=' => some .equal
  | ';' => some .semicolon
  | _ => none

/-- Whether a character may continue a word. -/
def isWordChar (c : Char) : Bool := !isBlank c && (punctuation? c).isNone

/-- Whether a character is an ASCII letter or an underscore. -/
def isNameStart (c : Char) : Bool :=
  ('A' ≤ c && c ≤ 'Z') || ('a' ≤ c && c ≤ 'z') || c == '_'

/-- Whether a character may continue a name under the strict rule. -/
def isNameChar (c : Char) : Bool := isNameStart c || isDigit c

/-- The rest of a number after its first digit: digits, and at most one point. -/
def numberTail (cs : List Char) : List Char :=
  cs.takeWhile isDigit ++
    match cs.dropWhile isDigit with
    | '.' :: rest => '.' :: rest.takeWhile isDigit
    | _ => []

/-- The rest of a word after its first character, if a word may begin with it. -/
def wordTail? (rule : WordRule) (c : Char) (cs : List Char) : Option (List Char) :=
  match rule with
  | .any => some (cs.takeWhile isWordChar)
  | .strict => if isNameStart c then some (cs.takeWhile isNameChar) else none

/-- The kind of a word: one word is reserved. -/
def wordKind (word : List Char) : TokenKind :=
  if word = "def".toList then .define else .ident

/-- The kind of the token that begins with a character, and the rest of its text. -/
def lexeme? (rule : WordRule) (c : Char) (cs : List Char) : Option (TokenKind × List Char) :=
  if isDigit c then some (.number, numberTail cs)
  else
    match punctuation? c with
    | some kind => some (kind, [])
    | none => (wordTail? rule c cs).map fun tail => (wordKind (c :: tail), tail)

/-- The tokens of a text whose first character has the given offset. -/
def scan (rule : WordRule) (pos : Nat) (cs : List Char) : Except LexError (List Token) :=
  match cs with
  | [] => .ok [Token.endAt pos]
  | c :: rest =>
      if isBlank c then scan rule (pos + 1) rest
      else
        match lexeme? rule c rest with
        | none => .error (.unrecognized (String.singleton c) pos)
        | some (kind, tail) =>
            match scan rule (pos + 1 + tail.length) (rest.drop tail.length) with
            | .error e => .error e
            | .ok tokens => .ok (⟨kind, String.ofList (c :: tail), pos⟩ :: tokens)
termination_by cs.length
decreasing_by
  all_goals simp only [List.length_cons, List.length_drop]; omega

@[simp] theorem scan_nil (rule : WordRule) (pos : Nat) :
    scan rule pos [] = .ok [Token.endAt pos] := by
  rw [scan]

/-- A blank moves the offset and nothing else. -/
theorem scan_blank (rule : WordRule) (pos : Nat) {c : Char} (rest : List Char)
    (h : isBlank c = true) : scan rule pos (c :: rest) = scan rule (pos + 1) rest := by
  rw [scan, if_pos h]

end Lexer

/-- The tokens of a line, the last of which marks its end. -/
def Token.scan (rule : WordRule) (source : String) : Except LexError (List Token) :=
  Lexer.scan rule 0 source.toList

end LineCalc
