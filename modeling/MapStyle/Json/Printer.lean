import MapStyle.Json.Basic
import MapStyle.Number.Spelling

/-!
# JSON text of a value

One line without blanks, in ASCII: every other character is written by its UTF-16 code units.
-/

namespace MapStyle.Json

/-- Four hexadecimal digits of a code unit. -/
def unitDigits (n : Nat) : List Char :=
  let digits := Nat.toDigits 16 n
  List.replicate (4 - digits.length) '0' ++ digits

/-- A code unit as an escape. -/
def unitEscape (n : Nat) : List Char := '\\' :: 'u' :: unitDigits n

/-- A character inside a text. -/
def charText (c : Char) : List Char :=
  let n := c.toNat
  if c = '\x22' || c = '\\' then ['\\', c]
  else if c = '\n' then ['\\', 'n']
  else if 0x20 ≤ n && n < 0x7F then [c]
  else if n < 0x10000 then unitEscape n
  else
    unitEscape (0xD800 + (n - 0x10000) / 0x400) ++ unitEscape (0xDC00 + (n - 0x10000) % 0x400)

/-- A text between quotes. -/
def stringText (s : String) : String :=
  String.ofList ('\x22' :: (s.toList.flatMap charText ++ ['\x22']))

/-- A value without parts. -/
def scalarText : Scalar → String
  | .null => "null"
  | .bool value => if value then "true" else "false"
  | .int n => toString n
  | .float x => if x.isFinite then x.snapshotText else "null"
  | .string s => stringText s

mutual
/-- The text of a value. -/
def print : Json → String
  | .scalar value => scalarText value
  | .array items => "[" ++ printItems items ++ "]"
  | .object members => "\x7b" ++ printMembers members ++ "\x7d"

/-- Items with commas between them. -/
def printItems : List Json → String
  | [] => ""
  | [item] => item.print
  | item :: rest => item.print ++ "," ++ printItems rest

/-- Members with commas between them. -/
def printMembers : List (String × Json) → String
  | [] => ""
  | [(key, value)] => stringText key ++ ":" ++ value.print
  | (key, value) :: rest => stringText key ++ ":" ++ value.print ++ "," ++ printMembers rest
end

end MapStyle.Json
