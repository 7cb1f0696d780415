/-
Writing JSON.

Both layouts use ASCII only; every other character is escaped by its UTF-16 code
units, in lower-case hexadecimal.  `compact` puts a document on one line,
`indented` puts each element and member on a line of its own, two blanks deeper
than what holds it, and keeps empty arrays and objects closed.
-/
import FuzzSynth.Binary64.Text
import FuzzSynth.Json.Value
import FuzzSynth.Text.Quoted

namespace FuzzSynth.Json

open FuzzSynth.Text

/-- A code unit as an escape. -/
def unitEscape (n : Nat) : List Char :=
  '\\' :: 'u' :: hexDigits 4 n

/-- How a code point is written inside a string. -/
def pointText (n : Nat) : List Char :=
  if n == 0x22 then ['\\', '"']
  else if n == 0x5C then ['\\', '\\']
  else if n == 0xA then ['\\', 'n']
  else if n == 0xD then ['\\', 'r']
  else if n == 0x9 then ['\\', 't']
  else if n == 0x8 then ['\\', 'b']
  else if n == 0xC then ['\\', 'f']
  else if 0x20 ≤ n && n < 0x7F then [Char.ofNat n]
  else if n < 0x10000 then unitEscape n
  else unitEscape (0xD800 + (n - 0x10000) / 0x400) ++ unitEscape (0xDC00 + (n - 0x10000) % 0x400)

/-- A string between quotes. -/
def stringText (s : String) : String :=
  "\"" ++ String.ofList ((toPoints s.toList).flatMap pointText) ++ "\""

/-- A whole number in digits.  One with too many of them is not written (`Text.isWritable`). -/
def intText (n : Int) : String :=
  String.ofList ((if n < 0 then ['-'] else []) ++ decimalDigits n.natAbs)

/-- A value that holds no others. -/
def scalarText : Json → String
  | null => "null"
  | bool value => if value then "true" else "false"
  | int value => intText value
  | float value => value.text Binary64.documentNames
  | string value => stringText value
  | moment _ text => stringText text
  | array _ => "[]"
  | object _ => "\x7b\x7d"

/-- A new line at the given depth. -/
def lineBreak (depth : Nat) : String :=
  String.ofList ('\n' :: List.replicate (2 * depth) ' ')

mutual

/-- A document on one line. -/
def compact : Json → String
  | array elements => "[" ++ ",".intercalate (compactEach elements) ++ "]"
  | object members => "\x7b" ++ ",".intercalate (compactMembers members) ++ "\x7d"
  | value => scalarText value

/-- Each element on one line. -/
def compactEach : List Json → List String
  | [] => []
  | value :: rest => compact value :: compactEach rest

/-- Each member on one line. -/
def compactMembers : List (String × Json) → List String
  | [] => []
  | (key, value) :: rest => (stringText key ++ ":" ++ compact value) :: compactMembers rest

end

mutual

/-- A document over several lines, what it holds being `depth` levels deep. -/
def indentedAt (depth : Nat) : Json → String
  | array (first :: rest) =>
      "[" ++ lineBreak depth ++ ("," ++ lineBreak depth).intercalate (indentedEach depth (first :: rest)) ++
        lineBreak (depth - 1) ++ "]"
  | object (first :: rest) =>
      "\x7b" ++ lineBreak depth ++
        ("," ++ lineBreak depth).intercalate (indentedMembers depth (first :: rest)) ++
        lineBreak (depth - 1) ++ "\x7d"
  | value => scalarText value

/-- Each element over several lines. -/
def indentedEach (depth : Nat) : List Json → List String
  | [] => []
  | value :: rest => indentedAt (depth + 1) value :: indentedEach depth rest

/-- Each member over several lines. -/
def indentedMembers (depth : Nat) : List (String × Json) → List String
  | [] => []
  | (key, value) :: rest =>
      (stringText key ++ ": " ++ indentedAt (depth + 1) value) :: indentedMembers depth rest

end

/-- A document over several lines. -/
def indented (value : Json) : String :=
  indentedAt 1 value

end FuzzSynth.Json
