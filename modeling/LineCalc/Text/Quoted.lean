import LineCalc.Text.Printable

/-!
# Quoted texts

Messages show names and token texts between quotes. The quote is an
apostrophe, unless the text holds an apostrophe and no double quote. Inside
the quotes the quote itself and the backslash are escaped, line feed, carriage
return, and tab have short escapes, and an unprintable character is written by
its code point in the shortest of three hexadecimal forms.
-/

namespace LineCalc.Text

/-- The apostrophe, which is the usual quote. -/
def apostrophe : Char := '\x27'

/-- A hexadecimal digit in lower case. -/
def hexDigit (n : Nat) : Char :=
  if n < 10 then Char.ofNat (48 + n) else Char.ofNat (87 + n)

/-- The last `width` hexadecimal digits of a number, most significant first. -/
def hex : (width : Nat) → Nat → List Char
  | 0, _ => []
  | width + 1, n => hex width (n / 16) ++ [hexDigit (n % 16)]

namespace Quoted

/-- The code point of a character in the shortest escape that holds it. -/
def codePoint (c : Char) : List Char :=
  if c.toNat < 0x100 then '\\' :: 'x' :: hex 2 c.toNat
  else if c.toNat < 0x10000 then '\\' :: 'u' :: hex 4 c.toNat
  else '\\' :: 'U' :: hex 8 c.toNat

/-- How a character is written between quotes of the given kind. -/
def encodeChar (quote c : Char) : List Char :=
  if c = quote ∨ c = '\\' then ['\\', c]
  else if c = '\n' then ['\\', 'n']
  else if c = '\r' then ['\\', 'r']
  else if c = '\t' then ['\\', 't']
  else if isPrintable c then [c]
  else codePoint c

/-- The quote for a text: an apostrophe, unless only a double quote avoids an escape. -/
def quoteFor (cs : List Char) : Char :=
  if apostrophe ∈ cs ∧ '"' ∉ cs then '"' else apostrophe

/-- A text between quotes. -/
def encode (cs : List Char) : List Char :=
  let quote := quoteFor cs
  quote :: cs.flatMap (encodeChar quote) ++ [quote]

end Quoted

/-- A text as messages show it, between quotes and on one line. -/
def quote (text : String) : String := String.ofList (Quoted.encode text.toList)

end LineCalc.Text
