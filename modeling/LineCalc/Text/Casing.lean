import LineCalc.Text.Casing.Lower
import LineCalc.Text.Casing.Upper
import LineCalc.Text.Casing.Cased

/-!
# Upper and lower case of a whole text

Case mapping is that of a whole text rather than of single characters: a
letter may expand to several, and a capital sigma at the end of a word has a
lower-case form of its own.
-/

namespace LineCalc.Text

/-- The lower-case form of a character outside any context. -/
def lowerChar (c : Char) : List Char :=
  if c.toNat = 0x130 then ['i', Char.ofNat 0x307]
  else [Char.ofNat (mapByRuns lowerRuns c.toNat)]

/-- The upper-case form of a character. -/
def upperChar (c : Char) : List Char :=
  match upperExpansions.find? fun entry => entry.1 == c.toNat with
  | some entry => entry.2.map Char.ofNat
  | none => [Char.ofNat (mapByRuns upperRuns c.toNat)]

/-- Whether a capital sigma between the two texts ends a word. The text before
it is given backwards, so both scans start at the sigma. -/
def endsWord (before after : List Char) : Bool :=
  match before.dropWhile isCaseIgnorable with
  | [] => false
  | c :: _ =>
      isCased c &&
        match after.dropWhile isCaseIgnorable with
        | [] => true
        | d :: _ => !isCased d

/-- The lower-case form of the rest of a text, after the characters `before`. -/
def lowerAfter (before : List Char) : List Char → List Char
  | [] => []
  | c :: rest =>
      let image :=
        if c.toNat = 0x3A3 then [Char.ofNat (if endsWord before rest then 0x3C2 else 0x3C3)]
        else lowerChar c
      image ++ lowerAfter (c :: before) rest

/-- A text in lower case. -/
def lower (text : String) : String := String.ofList (lowerAfter [] text.toList)

/-- A text in upper case. -/
def upper (text : String) : String := String.ofList (text.toList.flatMap upperChar)

end LineCalc.Text
