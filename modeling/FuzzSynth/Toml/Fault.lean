/-
What is wrong with a TOML document.

A fault is the first thing that keeps a document from being read; `Fault.message` says
it in words.  A whole number with too many digits is well formed, and is a fault all the
same.
-/
import FuzzSynth.Text.Numeral
import FuzzSynth.Text.Quoted

namespace FuzzSynth.Toml

open FuzzSynth.Text

/-- Why a document cannot be read. -/
inductive Fault where
  /-- A line starts with what is no statement. -/
  | noStatement
  /-- Something follows a statement in its line. -/
  | notEnded
  /-- A header names a table that is defined. -/
  | declaredTwice (path : List String)
  /-- Something would be added to a value that is complete. -/
  | complete (path : List String)
  /-- A dotted key goes through a table that is defined. -/
  | redefined (path : List String)
  /-- A value stands where a table or nothing should be. -/
  | overwritten
  /-- A header of a table does not end. -/
  | openHeader
  /-- A header of an element of an array does not end. -/
  | openElement
  /-- No value follows a key. -/
  | noEquals
  /-- There is no key where one should be. -/
  | noKey
  | openArray
  | openTable
  /-- A table in braces has a key twice. -/
  | repeated (key : String)
  /-- A backslash in a string starts no escape. -/
  | noEscape
  /-- An escape has something other than its hexadecimal digits. -/
  | notHex
  /-- An escape stands for no character. -/
  | notScalar
  | openString
  /-- A literal string does not end with these quotes. -/
  | openLiteral (quotes : String)
  /-- A control character in a basic string. -/
  | controlInString (c : Char)
  /-- A control character in a literal string or a comment. -/
  | control (c : Char)
  /-- A date that the calendar has not. -/
  | noDate
  /-- There is no value where one should be. -/
  | noValue
  /-- A whole number has this many digits, which is too many. -/
  | tooManyDigits (count : Nat)
  deriving DecidableEq, Repr, Inhabited

/-- A path of keys as it is shown. -/
def shownPath : List String → String
  | [key] => "(" ++ quoted key ++ ",)"
  | keys => "(" ++ ", ".intercalate (keys.map quoted) ++ ")"

/-- What is said about a fault. -/
def Fault.message : Fault → String
  | noStatement => "Invalid statement"
  | notEnded => "Expected newline or end of document after a statement"
  | declaredTwice path => "Cannot declare " ++ shownPath path ++ " twice"
  | complete path => "Cannot mutate immutable namespace " ++ shownPath path
  | redefined path => "Cannot redefine namespace " ++ shownPath path
  | overwritten => "Cannot overwrite a value"
  | openHeader => "Expected ']' at the end of a table declaration"
  | openElement => "Expected ']]' at the end of an array declaration"
  | noEquals => "Expected '=' after a key in a key/value pair"
  | noKey => "Invalid initial character for a key part"
  | openArray => "Unclosed array"
  | openTable => "Unclosed inline table"
  | repeated key => "Duplicate inline table key " ++ quoted key
  | noEscape => "Unescaped '\\' in a string"
  | notHex => "Invalid hex value"
  | notScalar => "Escaped character is not a Unicode scalar value"
  | openString => "Unterminated string"
  | openLiteral quotes => "Expected " ++ quoted quotes
  | controlInString c => "Illegal character " ++ quoted c.toString
  | control c => "Found invalid character " ++ quoted c.toString
  | noDate => "Invalid date or datetime"
  | noValue => "Invalid value"
  | tooManyDigits count => tooManyDigitsText count

/-- What can be had, or else a fault. -/
def orFault {α : Type} (fault : Fault) : Option α → Except Fault α
  | some a => .ok a
  | none => .error fault

end FuzzSynth.Toml
