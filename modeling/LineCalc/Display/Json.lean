import LineCalc.Diagnostic

/-!
# Results as JSON

A value is reported with its text; infinities and the undefined number have no
JSON value and are reported as null. An error is reported with its stage, kind,
and message. Texts hold ASCII characters only, all others being written by their
UTF-16 units.
-/

namespace LineCalc.Json

/-- The UTF-16 units of a character. -/
def units (c : Char) : List Nat :=
  let n := c.toNat
  if n < 0x10000 then [n]
  else [0xD800 + (n - 0x10000) / 0x400, 0xDC00 + (n - 0x10000) % 0x400]

/-- A character inside a JSON text. -/
def encodeChar (c : Char) : List Char :=
  if c = '"' then ['\\', '"']
  else if c = '\\' then ['\\', '\\']
  else if c = '\n' then ['\\', 'n']
  else if c = '\r' then ['\\', 'r']
  else if c = '\t' then ['\\', 't']
  else if c.toNat = 8 then ['\\', 'b']
  else if c.toNat = 12 then ['\\', 'f']
  else if ' ' ≤ c ∧ c ≤ '~' then [c]
  else (units c).flatMap fun n => '\\' :: 'u' :: Text.hex 4 n

/-- A text between double quotes. -/
def quote (text : String) : String :=
  String.ofList ('"' :: text.toList.flatMap encodeChar ++ ['"'])

/-- An object with its fields in order, given by their names and written values. -/
def object (fields : List (String × String)) : String :=
  "\x7b" ++ ", ".intercalate (fields.map fun field => quote field.1 ++ ": " ++ field.2) ++ "\x7d"

/-- The report of a value. -/
def ofValue (x : Float) : String :=
  object
    [("value", if Binary64.isFinite x then Decimal.text x else "null"),
      ("text", quote (Decimal.text x))]

/-- The report of an error. -/
def ofError (error : Error) : String :=
  object
    [("error", object
      [("stage", quote error.stage), ("kind", quote error.kind),
        ("message", quote error.message)])]

end LineCalc.Json
