/-
What is wrong with a literal.

A fault is the first thing that keeps a text from being read as an expression, or an
expression from being a literal; `Fault.message` says it in words.  A fault inside a field
of a text says so.
-/
import FuzzSynth.Text.Bytes
import FuzzSynth.Text.Numeral

namespace FuzzSynth.Literal

open FuzzSynth.Text

/-- How a number is written. -/
inductive Numeral where
  | decimal
  | hexadecimal
  | octal
  | binary
  | imaginary
  deriving DecidableEq, Repr, Inhabited

/-- The word for a way to write a number. -/
def Numeral.word : Numeral → String
  | decimal => "decimal"
  | hexadecimal => "hexadecimal"
  | octal => "octal"
  | binary => "binary"
  | imaginary => "imaginary"

/-- An escape in a text that stands for no character, and the positions of its first and
last characters. -/
structure BadEscape where
  first : Nat
  last : Nat
  reason : String
  deriving DecidableEq, Repr, Inhabited

/-- Why a text is no literal. -/
inductive Fault where
  /-- The text has no bytes. -/
  | unencodable (u : Unencodable)
  /-- The text has a character that ends texts. -/
  | nul
  /-- A character that stands in no name. -/
  | badCharacter (c : Char)
  | badNumber (n : Numeral)
  /-- A digit that is too great for the base. -/
  | badDigit (digit : Char) (n : Numeral)
  /-- A decimal number starts with a zero. -/
  | leadingZeros
  | tooManyDigits (count : Nat)
  /-- A text between quotes does not end. -/
  | openText (triple : Bool) (line : Nat)
  | badEscape (e : BadEscape)
  /-- A hexadecimal escape in bytes has too few digits. -/
  | badByteEscape (position : Nat)
  /-- A character that is no byte in bytes. -/
  | badByte
  /-- Texts and bytes stand side by side. -/
  | mixedTexts
  /-- A closing bracket without an opening one. -/
  | unmatched (closer : Char)
  /-- A bracket is closed by another kind, and was opened on this line, if not on the same. -/
  | mismatched (closer opener : Char) (line : Option Nat)
  | tooDeep
  | neverClosed (opener : Char)
  /-- The text ends after a backslash that continues a line. -/
  | endsInLine
  /-- A backslash continues a line that goes on. -/
  | afterBackslash
  | unindent
  | mixedIndent
  | tooManyIndents
  | unexpectedIndent
  | unexpectedUnindent
  /-- What is read fits nowhere. -/
  | general
  | missingComma
  | missingElse
  /-- A statement of old that has become a call. -/
  | oldStatement (name : String)
  | namedForm (form : String)
  | equalsSign
  | assignedHere (form : String)
  | assigned (form : String)
  | assignedArgument
  | starredGroup
  | doubleStarredGroup
  | starredComprehension
  | bareComprehension
  | spreadComprehension
  | noDictValue
  | noDictColon
  | starredDictValue
  | starAfterSpread
  | openGenerator
  | positionalAfterSpread
  | positionalAfterKeyword
  | noParameterBeforeSlash
  | slashTwice
  | slashAfterStar
  | slashThenStar
  | defaultBefore
  | bracketedParameters
  | noDefault
  | starWithDefault
  | starTwice
  | spreadWithDefault
  | afterSpread
  | nothingAfterStar
  /-- A field is nested in a field that is nested in a field. -/
  | fieldTooDeep
  | fieldBackslash
  | fieldComment
  | fieldOpenText
  | fieldTooManyBrackets
  | fieldUnmatched (bracket : Char)
  | fieldMismatched (closer opener : Char)
  | fieldBlank
  | fieldMissing (next : Char)
  | fieldConversion
  | fieldOpen
  | fieldLoneBrace
  /-- A fault of the expression in a field. -/
  | inField (fault : Fault)
  /-- An expression that is no literal. -/
  | notLiteral
  /-- What is spread into a dictionary is no literal. -/
  | spreadEntry
  | unhashable (kind : String)
  /-- A whole number that is added to an imaginary one is too great. -/
  | tooGreat
  deriving DecidableEq, Repr, Inhabited

/-- The code point of a character as it is shown. -/
def shownPoint (c : Char) : String :=
  let n := c.toNat
  let width := if n < 0x10000 then 4 else if n < 0x100000 then 5 else 6
  "U+" ++ String.ofList ((hexDigits width n).map Char.toUpper)

/-- A number as it is shown. -/
def shownNumber (n : Nat) : String := String.ofList (decimalDigits n)

/-- What is said about an escape. -/
def BadEscape.message (e : BadEscape) : String :=
  "(unicode error) 'unicodeescape' codec can't decode bytes in position " ++
    shownNumber e.first ++ "-" ++ shownNumber e.last ++ ": " ++ e.reason

/-- What is said about a fault. -/
def Fault.message : Fault → String
  | unencodable u => u.message
  | nul => "source code string cannot contain null bytes"
  | badCharacter c =>
      if isPrintable c then "invalid character '" ++ c.toString ++ "' (" ++ shownPoint c ++ ")"
      else "invalid non-printable character " ++ shownPoint c
  | badNumber n => "invalid " ++ n.word ++ " literal"
  | badDigit digit n => "invalid digit '" ++ digit.toString ++ "' in " ++ n.word ++ " literal"
  | leadingZeros =>
      "leading zeros in decimal integer literals are not permitted; " ++
        "use an 0o prefix for octal integers"
  | tooManyDigits count =>
      tooManyDigitsText count ++
        " - Consider hexadecimal for huge integer literals to avoid decimal conversion limits."
  | openText triple line =>
      "unterminated " ++ (if triple then "triple-quoted " else "") ++
        "string literal (detected at line " ++ shownNumber line ++ ")"
  | badEscape e => e.message
  | badByteEscape position =>
      "(value error) invalid \\x escape at position " ++ shownNumber position
  | badByte => "bytes can only contain ASCII literal characters"
  | mixedTexts => "cannot mix bytes and nonbytes literals"
  | unmatched closer => "unmatched '" ++ closer.toString ++ "'"
  | mismatched closer opener line =>
      "closing parenthesis '" ++ closer.toString ++ "' does not match opening parenthesis '" ++
        opener.toString ++ "'" ++
        match line with
        | some n => " on line " ++ shownNumber n
        | none => ""
  | tooDeep => "too many nested parentheses"
  | neverClosed opener => "'" ++ opener.toString ++ "' was never closed"
  | endsInLine => "unexpected EOF while parsing"
  | afterBackslash => "unexpected character after line continuation character"
  | unindent => "unindent does not match any outer indentation level"
  | mixedIndent => "inconsistent use of tabs and spaces in indentation"
  | tooManyIndents => "too many levels of indentation"
  | unexpectedIndent => "unexpected indent"
  | unexpectedUnindent => "unexpected unindent"
  | general => "invalid syntax"
  | missingComma => "invalid syntax. Perhaps you forgot a comma?"
  | missingElse => "expected 'else' after 'if' expression"
  | oldStatement name =>
      "Missing parentheses in call to '" ++ name ++ "'. Did you mean " ++ name ++ "(...)?"
  | namedForm form => "cannot use assignment expressions with " ++ form
  | equalsSign => "invalid syntax. Maybe you meant '==' or ':=' instead of '='?"
  | assignedHere form =>
      "cannot assign to " ++ form ++ " here. Maybe you meant '==' instead of '='?"
  | assigned form => "cannot assign to " ++ form
  | assignedArgument => "expression cannot contain assignment, perhaps you meant \"==\"?"
  | starredGroup => "cannot use starred expression here"
  | doubleStarredGroup => "cannot use double starred expression here"
  | starredComprehension => "iterable unpacking cannot be used in comprehension"
  | bareComprehension => "did you forget parentheses around the comprehension target?"
  | spreadComprehension => "dict unpacking cannot be used in dict comprehension"
  | noDictValue => "expression expected after dictionary key and ':'"
  | noDictColon => "':' expected after dictionary key"
  | starredDictValue => "cannot use a starred expression in a dictionary value"
  | starAfterSpread => "iterable argument unpacking follows keyword argument unpacking"
  | openGenerator => "Generator expression must be parenthesized"
  | positionalAfterSpread => "positional argument follows keyword argument unpacking"
  | positionalAfterKeyword => "positional argument follows keyword argument"
  | noParameterBeforeSlash => "at least one argument must precede /"
  | slashTwice => "/ may appear only once"
  | slashAfterStar => "/ must be ahead of *"
  | slashThenStar => "expected comma between / and *"
  | defaultBefore => "non-default argument follows default argument"
  | bracketedParameters => "Lambda expression parameters cannot be parenthesized"
  | noDefault => "expected default value expression"
  | starWithDefault => "var-positional argument cannot have default value"
  | starTwice => "* argument may appear only once"
  | spreadWithDefault => "var-keyword argument cannot have default value"
  | afterSpread => "arguments cannot follow var-keyword argument"
  | nothingAfterStar => "named arguments must follow bare *"
  | fieldTooDeep => "f-string: expressions nested too deeply"
  | fieldBackslash => "f-string expression part cannot include a backslash"
  | fieldComment => "f-string expression part cannot include '#'"
  | fieldOpenText => "f-string: unterminated string"
  | fieldTooManyBrackets => "f-string: too many nested parenthesis"
  | fieldUnmatched bracket => "f-string: unmatched '" ++ bracket.toString ++ "'"
  | fieldMismatched closer opener =>
      "f-string: closing parenthesis '" ++ closer.toString ++
        "' does not match opening parenthesis '" ++ opener.toString ++ "'"
  | fieldBlank => "f-string: empty expression not allowed"
  | fieldMissing next => "f-string: expression required before '" ++ next.toString ++ "'"
  | fieldConversion => "f-string: invalid conversion character: expected 's', 'r', or 'a'"
  | fieldOpen => "f-string: expecting '\x7d'"
  | fieldLoneBrace => "f-string: single '\x7d' is not allowed"
  | inField fault => "f-string: " ++ fault.message
  | notLiteral => "malformed node or string"
  | spreadEntry => "malformed node or string: None"
  | unhashable kind => "unhashable type: '" ++ kind ++ "'"
  | tooGreat => "int too large to convert to float"

end FuzzSynth.Literal
