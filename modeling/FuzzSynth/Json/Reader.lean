/-
Reading JSON.

The reader takes standard JSON and, besides, the numbers `NaN`, `Infinity` and
`-Infinity`.  It refuses control characters in strings, leading zeros, trailing
commas and anything after the value.  Of two members with one key the later value
counts.  A whole number of more than 4300 digits is refused by its length.

`fuel` bounds the nesting of calls; twice the length of the text is always enough,
because each call but the first follows a character that has been read.
-/
import FuzzSynth.Json.Value
import FuzzSynth.Text.Numeral
import FuzzSynth.Text.Points

namespace FuzzSynth.Json

open FuzzSynth.Text

/-- Why a text is not a value. -/
inductive ReadError where
  /-- The text is not JSON. -/
  | malformed
  /-- A whole number has this many digits, which is too many. -/
  | tooManyDigits (count : Nat)
  deriving DecidableEq, Repr

/-- The text after the blanks that JSON allows between tokens. -/
def skipBlanks (cs : List Char) : List Char :=
  cs.dropWhile fun c => c == ' ' || c == '\t' || c == '\n' || c == '\r'

/-- The code unit written with four hexadecimal digits. -/
def unit? (a b c d : Char) : Option Nat := do
  let a ← hexValue? a
  let b ← hexValue? b
  let c ← hexValue? c
  let d ← hexValue? d
  pure (((a * 16 + b) * 16 + c) * 16 + d)

/-- Whether a code unit is the first half of a surrogate pair. -/
def isHighSurrogate (n : Nat) : Bool := 0xD800 ≤ n && n ≤ 0xDBFF

/-- Whether a code unit is the second half of a surrogate pair. -/
def isLowSurrogate (n : Nat) : Bool := 0xDC00 ≤ n && n ≤ 0xDFFF

/-- The character after a backslash, when it stands for one character. -/
def simpleEscape? : Char → Option Char
  | '"' => some '"'
  | '\\' => some '\\'
  | '/' => some '/'
  | 'b' => some '\x08'
  | 'f' => some '\x0c'
  | 'n' => some '\n'
  | 'r' => some '\r'
  | 't' => some '\t'
  | _ => none

/-- A part of a string. -/
inductive Piece where
  | char (c : Char)
  /-- A code unit, given by its number. -/
  | unit (n : Nat)
  deriving DecidableEq, Repr

/-- The pieces of a string up to its closing quote, and the text after that. -/
def stringPieces : List Char → Option (List Piece × List Char)
  | [] => none
  | '"' :: rest => some ([], rest)
  | '\\' :: 'u' :: a :: b :: c :: d :: rest =>
      match unit? a b c d, stringPieces rest with
      | some unit, some (pieces, rest') => some (.unit unit :: pieces, rest')
      | _, _ => none
  | '\\' :: c :: rest =>
      match simpleEscape? c, stringPieces rest with
      | some e, some (pieces, rest') => some (.char e :: pieces, rest')
      | _, _ => none
  | c :: rest =>
      if c.toNat < 0x20 || c == '\\' then none
      else (stringPieces rest).map fun (pieces, rest') => (.char c :: pieces, rest')

/-- The text of the pieces; a surrogate pair is one code point. -/
def joinPieces : List Piece → List Char
  | [] => []
  | .char c :: rest => c :: joinPieces rest
  | [.unit n] => ofPoint n
  | .unit high :: .char c :: rest => ofPoint high ++ c :: joinPieces rest
  | .unit high :: .unit low :: rest =>
      if isHighSurrogate high && isLowSurrogate low then
        ofPoint (0x10000 + (high - 0xD800) * 0x400 + (low - 0xDC00)) ++ joinPieces rest
      else ofPoint high ++ joinPieces (.unit low :: rest)

/-- A string after its opening quote, and the text after its closing one. -/
def readString (cs : List Char) : Option (String × List Char) :=
  (stringPieces cs).map fun (pieces, rest) => (String.ofList (joinPieces pieces), rest)

/-- The number that ASCII digits stand for. -/
def digitsValue (digits : List Char) : Nat :=
  digits.foldl (fun n c => n * 10 + (c.toNat - 0x30)) 0

/-- The digits at the start of a text, and the rest. -/
def spanDigits (cs : List Char) : List Char × List Char :=
  (cs.takeWhile isAsciiDigit, cs.dropWhile isAsciiDigit)

/-- The fraction digits after a point, if there are any. -/
def readFraction : List Char → List Char × List Char
  | '.' :: rest =>
      match spanDigits rest with
      | ([], _) => ([], '.' :: rest)
      | found => found
  | cs => ([], cs)

/-- The exponent, if there is one. -/
def readExponent (cs : List Char) : Option Int × List Char :=
  match cs with
  | e :: rest =>
      if e == 'e' || e == 'E' then
        let (negative, tail) :=
          match rest with
          | '-' :: tail => (true, tail)
          | '+' :: tail => (false, tail)
          | tail => (false, tail)
        match spanDigits tail with
        | ([], _) => (none, cs)
        | (digits, rest') =>
            let value : Int := digitsValue digits
            (some (if negative then -value else value), rest')
      else (none, cs)
  | [] => (none, cs)

/-- A number without its sign, and the text after it. -/
def readMagnitude (negative : Bool) (cs : List Char) : Except ReadError (Json × List Char) :=
  let (whole, rest) :=
    match cs with
    | '0' :: rest => (['0'], rest)
    | _ => spanDigits cs
  if whole.isEmpty then .error .malformed
  else
    let (fraction, rest) := readFraction rest
    let (exponent, rest) := readExponent rest
    if fraction.isEmpty && exponent.isNone then
      if digitLimit < whole.length then .error (.tooManyDigits whole.length)
      else
        let value : Int := digitsValue whole
        .ok (.int (if negative then -value else value), rest)
    else
      let power := exponent.getD 0 - (fraction.length : Int)
      .ok (.float (.ofDecimal negative (digitsValue (whole ++ fraction)) power), rest)

/-- A number or one of the named values, and the text after it. -/
def readScalar : List Char → Except ReadError (Json × List Char)
  | 'n' :: 'u' :: 'l' :: 'l' :: rest => .ok (.null, rest)
  | 't' :: 'r' :: 'u' :: 'e' :: rest => .ok (.bool true, rest)
  | 'f' :: 'a' :: 'l' :: 's' :: 'e' :: rest => .ok (.bool false, rest)
  | 'N' :: 'a' :: 'N' :: rest => .ok (.float .nan, rest)
  | 'I' :: 'n' :: 'f' :: 'i' :: 'n' :: 'i' :: 't' :: 'y' :: rest => .ok (.float (.infinite false), rest)
  | '-' :: 'I' :: 'n' :: 'f' :: 'i' :: 'n' :: 'i' :: 't' :: 'y' :: rest =>
      .ok (.float (.infinite true), rest)
  | '-' :: rest => readMagnitude true rest
  | cs => readMagnitude false cs

mutual

/-- The value at the start of a text, and the text after it. -/
def readValue : (fuel : Nat) → List Char → Except ReadError (Json × List Char)
  | 0, _ => .error .malformed
  | _ + 1, '"' :: rest =>
      match readString rest with
      | some (text, rest') => .ok (.string text, rest')
      | none => .error .malformed
  | fuel + 1, '[' :: rest =>
      match skipBlanks rest with
      | ']' :: rest' => .ok (.array [], rest')
      | rest' => (readElements fuel rest').map fun (elements, rest'') => (.array elements, rest'')
  | fuel + 1, '{' :: rest =>
      match skipBlanks rest with
      | '}' :: rest' => .ok (.object [], rest')
      | rest' => (readMembers fuel [] rest').map fun (members, rest'') => (.object members, rest'')
  | _ + 1, cs => readScalar cs

/-- Elements up to the closing bracket, and the text after it. -/
def readElements : (fuel : Nat) → List Char → Except ReadError (List Json × List Char)
  | 0, _ => .error .malformed
  | fuel + 1, cs => do
      let (value, rest) ← readValue fuel cs
      match skipBlanks rest with
      | ']' :: rest' => .ok ([value], rest')
      | ',' :: rest' =>
          let (values, rest'') ← readElements fuel (skipBlanks rest')
          .ok (value :: values, rest'')
      | _ => .error .malformed

/-- Members up to the closing brace, set on top of those before, and the text after it. -/
def readMembers : (fuel : Nat) → List (String × Json) → List Char →
    Except ReadError (List (String × Json) × List Char)
  | fuel + 1, before, '"' :: cs => do
      match readString cs with
      | none => .error .malformed
      | some (key, rest) =>
          match skipBlanks rest with
          | ':' :: rest' =>
              let (value, rest'') ← readValue fuel (skipBlanks rest')
              let members := setMember key value before
              match skipBlanks rest'' with
              | '}' :: rest''' => .ok (members, rest''')
              | ',' :: rest''' => readMembers fuel members (skipBlanks rest''')
              | _ => .error .malformed
          | _ => .error .malformed
  | _, _, _ => .error .malformed

end

/-- Reads a JSON document. -/
def read (text : String) : Except ReadError Json := do
  let cs := text.toList
  let (value, rest) ← readValue (2 * cs.length + 2) (skipBlanks cs)
  if (skipBlanks rest).isEmpty then .ok value else .error .malformed

end FuzzSynth.Json
