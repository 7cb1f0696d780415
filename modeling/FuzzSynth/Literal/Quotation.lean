/-
Texts between quotes.

`quotation` reads the texts that stand side by side as one.  In a text a backslash starts
an escape, unless the text is raw; bytes are ASCII characters.  In a text with fields an
expression stands between braces, with a conversion after `!` and a format after `:`, in
which there may be fields again; braces that are doubled stand for themselves.
-/
import FuzzSynth.Literal.Expr
import FuzzSynth.Literal.Lexeme

namespace FuzzSynth.Literal

open FuzzSynth.Text

/-- A fault in a text between quotes, and whether it is one of the expression in a field. -/
structure TextFault where
  fault : Fault
  inExpression : Bool
  deriving DecidableEq, Repr, Inhabited

/-- A fault of a text itself. -/
def ofText {α : Type} (r : Except Fault α) : Except TextFault α :=
  r.mapError fun fault => ⟨fault, false⟩

/-! ## Escapes -/

/-- The ASCII form of a text, in which other characters are escapes of eight digits.  A
backslash before such a character stands for itself. -/
def asciiForm : List Char → List Char
  | [] => []
  | ['\\'] => "\\u005c".toList
  | '\\' :: d :: rest =>
      if d.toNat < 0x80 then '\\' :: d :: asciiForm rest
      else "\\u005c".toList ++ '\\' :: 'U' :: hexDigits 8 d.toNat ++ asciiForm rest
  | c :: rest =>
      if c.toNat < 0x80 then c :: asciiForm rest
      else '\\' :: 'U' :: hexDigits 8 c.toNat ++ asciiForm rest

/-- An escape with hexadecimal digits: how many there are, and what is said when some are
missing. -/
def hexEscape? : Char → Option (Nat × String)
  | 'x' => some (2, "truncated \\xXX escape")
  | 'u' => some (4, "truncated \\uXXXX escape")
  | 'U' => some (8, "truncated \\UXXXXXXXX escape")
  | _ => none

/-- A character that may stand in the name of a character. -/
def isNameOfCharacter (c : Char) : Bool :=
  isLetter c || isAsciiDigit c || c == ' ' || c == '-'

/-- What is wrong with the escape after a backslash at a position.  A name of a character is
taken for one if it has only letters, digits, spaces and hyphens. -/
def escapeFault? (position : Nat) : List Char → Option BadEscape
  | 'N' :: '{' :: rest =>
      let name := rest.takeWhile (· != '}')
      let reason := "malformed \\N character escape"
      if name.length = rest.length then some ⟨position, position + 2 + name.length, reason⟩
      else if name.isEmpty then some ⟨position, position + 2, reason⟩
      else if name.all isNameOfCharacter then none
      else some ⟨position, position + 3 + name.length, "unknown Unicode character name"⟩
  | 'N' :: _ => some ⟨position, position + 1, "malformed \\N character escape"⟩
  | c :: rest =>
      match hexEscape? c with
      | none => none
      | some (width, reason) =>
          let digits := (rest.take width).takeWhile isHexDigit
          let last := position + 1 + digits.length
          if digits.length < width then some ⟨position, last, reason⟩
          else if 0x10FFFF < ofDigits 16 (digits.filterMap hexValue?) then
            some ⟨position, last, "illegal Unicode character"⟩
          else none
  | [] => none

/-- The first escape of a text in ASCII form that stands for no character. -/
def badEscape? : (position : Nat) → List Char → Option BadEscape
  | position, '\\' :: d :: rest =>
      (escapeFault? position (d :: rest)).or (badEscape? (position + 2) rest)
  | position, _ :: rest => badEscape? (position + 1) rest
  | _, [] => none

/-- The position of the first hexadecimal escape in bytes that has too few digits. -/
def badByteEscape? : (position : Nat) → List Char → Option Nat
  | position, '\\' :: 'x' :: rest =>
      if (rest.take 2).countP isHexDigit < 2 then some position
      else badByteEscape? (position + 2) rest
  | position, '\\' :: _ :: rest => badByteEscape? (position + 2) rest
  | position, _ :: rest => badByteEscape? (position + 1) rest
  | _, [] => none

/-- A text without its escapes has to stand for characters. -/
def checkEscapes (cs : List Char) : Except Fault Unit :=
  match badEscape? 0 (asciiForm cs) with
  | some e => .error (.badEscape e)
  | none => .ok ()

/-- Bytes have to be written in ASCII, and their escapes to stand for bytes. -/
def checkBytes (isRaw : Bool) (cs : List Char) : Except Fault Unit :=
  if cs.any (0x80 ≤ ·.toNat) then .error .badByte
  else
    match if isRaw then none else badByteEscape? 0 cs with
    | some position => .error (.badByteEscape position)
    | none => .ok ()

/-! ## Fields -/

/-- How many characters the expression has that a field starts with, after a quote that is
open and inside brackets. -/
def fieldLength : (quote : Option (Char × Bool)) → (opened : List Char) → List Char →
    Except Fault Nat
  | some _, _, [] => .error .fieldOpenText
  | none, bracket :: _, [] => .error (.fieldUnmatched bracket)
  | none, [], [] => .error .fieldOpen
  | some (quote, triple), opened, c :: rest =>
      if c == '\\' then .error .fieldBackslash
      else if c == quote then
        if triple then
          match rest with
          | d :: e :: more =>
              if d == quote && e == quote then (fieldLength none opened more).map (· + 3)
              else (fieldLength (some (quote, true)) opened (d :: e :: more)).map (· + 1)
          | rest => (fieldLength (some (quote, true)) opened rest).map (· + 1)
        else (fieldLength none opened rest).map (· + 1)
      else (fieldLength (some (quote, triple)) opened rest).map (· + 1)
  | none, opened, c :: rest =>
      if c == '\\' then .error .fieldBackslash
      else if c == '\'' || c == '"' then
        match rest with
        | d :: e :: more =>
            if d == c && e == c then (fieldLength (some (c, true)) opened more).map (· + 3)
            else (fieldLength (some (c, false)) opened (d :: e :: more)).map (· + 1)
        | rest => (fieldLength (some (c, false)) opened rest).map (· + 1)
      else if c == '(' || c == '[' || c == '{' then
        if 200 ≤ opened.length then .error .fieldTooManyBrackets
        else (fieldLength none (c :: opened) rest).map (· + 1)
      else if c == '#' then .error .fieldComment
      else
        match opened with
        | [] =>
            if c == '!' || c == '=' || c == '<' || c == '>' then
              match rest with
              | '=' :: more => (fieldLength none [] more).map (· + 2)
              | rest =>
                  if c == '<' || c == '>' then (fieldLength none [] rest).map (· + 1) else .ok 0
            else if c == ':' || c == '}' then .ok 0
            else if c == ')' || c == ']' then .error (.fieldUnmatched c)
            else (fieldLength none [] rest).map (· + 1)
        | bracket :: outer =>
            if c == ')' || c == ']' || c == '}' then
              if (bracket, c) ∈ [('(', ')'), ('[', ']'), ('{', '}')] then
                (fieldLength none outer rest).map (· + 1)
              else .error (.fieldMismatched c bracket)
            else (fieldLength none opened rest).map (· + 1)

/-- How much of a text with fields is read before a field, or before the end of the text
or of the format that it is. -/
structure Stretch where
  /-- How many characters stand for themselves. -/
  length : Nat
  /-- What follows them. -/
  rest : List Char
  /-- Whether a doubled brace ends them. -/
  isDoubled : Bool
  deriving DecidableEq, Repr, Inhabited

/-- One more character that stands for itself. -/
def Stretch.longer (s : Stretch) (n : Nat) : Stretch := { s with length := s.length + n }

/-- The characters of a text with fields that stand for themselves; `isFormat` tells
whether it is a format, and `inName` whether the name of a character is being read. -/
def stretch (isRaw isFormat : Bool) : (inName : Bool) → List Char → Except Fault Stretch
  | _, [] => .ok ⟨0, [], false⟩
  | true, c :: rest => (stretch isRaw isFormat (c != '}') rest).map (·.longer 1)
  | false, c :: rest =>
      if c == '{' || c == '}' then
        if isFormat then .ok ⟨0, c :: rest, false⟩
        else
          match rest with
          | d :: more =>
              if d == c then .ok ⟨1, more, true⟩
              else if c == '}' then .error .fieldLoneBrace
              else .ok ⟨0, c :: rest, false⟩
          | [] => if c == '}' then .error .fieldLoneBrace else .ok ⟨0, c :: rest, false⟩
      else if c == '\\' && !isRaw then
        match rest with
        | 'N' :: d :: more => (stretch isRaw isFormat (d == '{') more).map (·.longer 3)
        | d :: more =>
            if d == '{' || d == '}' then
              (stretch isRaw isFormat false (d :: more)).map (·.longer 1)
            else (stretch isRaw isFormat false more).map (·.longer 2)
        | [] => .ok ⟨1, [], false⟩
      else (stretch isRaw isFormat false rest).map (·.longer 1)

/-- Whether a character is blank inside a field. -/
def isFieldBlank (c : Char) : Bool := c == ' ' || c == '\t' || c == '\n' || c == '\x0c'

/-- What follows a conversion, of which the mark has been read. -/
def afterConversion : List Char → Except Fault (List Char)
  | [] => .error .fieldOpen
  | c :: rest => if c == 's' || c == 'r' || c == 'a' then .ok rest else .error .fieldConversion

/-- What follows the expression of a field, up to its format. -/
def afterExpression : List Char → Except Fault (List Char)
  | '=' :: rest =>
      match rest.dropWhile fun c => isFieldBlank c || c == '\x0b' with
      | '!' :: more => afterConversion more
      | more => .ok more
  | '!' :: rest => afterConversion rest
  | rest => .ok rest

/-- What is said about a field without an expression, by what follows it. -/
def blankFault : List Char → Fault
  | c :: _ => if c == '!' || c == ':' || c == '=' then .fieldMissing c else .fieldBlank
  | [] => .fieldBlank

/-- What follows a text with fields, which is nested in as many others as `level` says:
nothing, or the brace after a format.  `check` says what is wrong with an expression. -/
def afterFields (check : List Char → Except Fault Unit) (isRaw : Bool) :
    (fuel level : Nat) → List Char → Except TextFault (List Char)
  | 0, _, cs => .ok cs
  | fuel + 1, level, cs => do
      let before ← ofText (stretch isRaw (level != 0) false cs)
      if !isRaw then ofText (checkEscapes (cs.take before.length))
      if before.isDoubled then afterFields check isRaw fuel level before.rest
      else
        match before.rest with
        | '{' :: field =>
            if 2 ≤ level then ofText (.error .fieldTooDeep)
            else do
              let length ← ofText (fieldLength none [] field)
              let expression := field.take length
              let rest := field.drop length
              if expression.all isFieldBlank then
                ofText (.error (blankFault rest))
              else
                (check expression).mapError fun fault => ⟨fault, true⟩
                let rest ← ofText (afterExpression rest)
                let rest ←
                  match rest with
                  | ':' :: format =>
                      if format.isEmpty then ofText (.error .fieldOpen)
                      else afterFields check isRaw fuel (level + 1) format
                  | rest => .ok rest
                match rest with
                | '}' :: rest => afterFields check isRaw fuel level rest
                | _ => ofText (.error .fieldOpen)
        | rest => .ok rest

/-! ## Texts side by side -/

/-- A text between quotes in parts. -/
def quotedParts (cs : List Char) : TextForm × List Char :=
  let letters := cs.takeWhile isNameLike
  let quoted := cs.dropWhile isNameLike
  let width :=
    match quoted with
    | a :: b :: c :: _ => if a == b && b == c && 6 ≤ quoted.length then 3 else 1
    | _ => 1
  (TextForm.ofLetters letters, (quoted.drop width).take (quoted.length - 2 * width))

/-- One text between quotes has to be as it says it is. -/
def checkQuoted (check : List Char → Except Fault Unit) (form : TextForm) (cs : List Char) :
    Except TextFault Unit :=
  if form.isBytes then ofText (checkBytes form.isRaw cs)
  else if form.hasFields then do
    let _ ← afterFields check form.isRaw (cs.length + 1) 0 cs
  else if form.isRaw then .ok ()
  else ofText (checkEscapes cs)

/-- Texts side by side: all of them have to be bytes if the first one is, else none. -/
def quotation (check : List Char → Except Fault Unit) (texts : List (List Char)) :
    Except TextFault Expr := do
  let parts := texts.map quotedParts
  let isBytes := parts.head?.any (·.1.isBytes)
  parts.forM fun (form, cs) => do
    if !form.hasFields then checkQuoted check form cs
    if form.isBytes != isBytes then ofText (.error .mixedTexts)
    if form.hasFields then checkQuoted check form cs
  .ok (if parts.any (·.1.hasFields) then .fields else .text)

end FuzzSynth.Literal
