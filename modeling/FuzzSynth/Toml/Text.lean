/-
Strings and keys of TOML.

A basic string stands between double quotes and has escapes; a literal string stands
between single quotes and has none.  Three quotes open a string over several lines:
a line break right after them is left out, and so are, in a basic string, the blanks
and line breaks after a backslash at the end of a line.  Control characters other
than the tab are refused everywhere.
-/
import FuzzSynth.Text.Points
import FuzzSynth.Toml.Fault

namespace FuzzSynth.Toml

open FuzzSynth.Text

/-- A blank inside a line. -/
def isGap (c : Char) : Bool := c == ' ' || c == '\t'

/-- A blank or a line break. -/
def isSpace (c : Char) : Bool := isGap c || c == '\n'

/-- A character that may stand nowhere in a line. -/
def isControl (c : Char) : Bool := (c.toNat < 0x20 && c != '\t') || c.toNat == 0x7F

/-- The text after the blanks of a line. -/
def skipGaps (cs : List Char) : List Char := cs.dropWhile isGap

/-! ## Escapes -/

/-- The character after a backslash, when it stands for one character. -/
def simpleEscape? : Char → Option Char
  | 'b' => some '\x08'
  | 't' => some '\t'
  | 'n' => some '\n'
  | 'f' => some '\x0c'
  | 'r' => some '\r'
  | '"' => some '"'
  | '\\' => some '\\'
  | _ => none

/-- The number that hexadecimal digits stand for. -/
def hexNumber? (cs : List Char) : Option Nat :=
  (cs.mapM hexValue?).map fun digits => digits.foldl (fun n d => n * 16 + d) 0

/-- The text of the code point that hexadecimal digits stand for; no half of a surrogate
pair is one. -/
def hexPoint (cs : List Char) : Except Fault (List Char) := do
  let n ← orFault .notHex (hexNumber? cs)
  if n.isValidChar then .ok (ofPoint n) else .error .notScalar

/-! ## Basic strings -/

/-- The text before characters, and what follows them. -/
def before (cs : List Char) : List Char × List Char → List Char × List Char
  | (text, after) => (cs ++ text, after)

/-- Whether a backslash before this text ends the text of its line. -/
def endsLine (cs : List Char) : Bool :=
  cs.any (· == '\n') && (cs.takeWhile (· != '\n')).all isGap

/-- A basic string after its opening quotes, and the text after its closing quotes;
with `skipping`, blanks and line breaks are left out. -/
def readBasic (lines skipping : Bool) : List Char → Except Fault (List Char × List Char)
  | [] => .error .openString
  | '"' :: rest =>
      if !lines then .ok ([], rest)
      else
        match rest with
        | '"' :: '"' :: rest' => .ok ([], rest')
        | _ => (readBasic lines false rest).map (before ['"'])
  | '\\' :: 'u' :: a :: b :: c :: d :: rest => do
      let point ← hexPoint [a, b, c, d]
      (readBasic lines false rest).map (before point)
  | '\\' :: 'U' :: a :: b :: c :: d :: e :: f :: g :: h :: rest => do
      let point ← hexPoint [a, b, c, d, e, f, g, h]
      (readBasic lines false rest).map (before point)
  | '\\' :: c :: rest =>
      match simpleEscape? c with
      | some e => (readBasic lines false rest).map (before [e])
      | none =>
          if lines && isSpace c && endsLine (c :: rest) then readBasic lines true rest
          else if lines && (c :: rest).all isGap then .error .openString
          else if c == 'u' || c == 'U' then .error .notHex
          else .error .noEscape
  | c :: rest =>
      if skipping && isSpace c then readBasic lines true rest
      else if c == '\\' then .error .noEscape
      else if isControl c && !(lines && c == '\n') then .error (.controlInString c)
      else (readBasic lines false rest).map (before [c])

/-! ## Literal strings -/

/-- The text before the quotes that end a literal string, and the text after them. -/
def untilQuotes? (lines : Bool) : List Char → Option (List Char × List Char)
  | [] => none
  | '\'' :: rest =>
      if !lines then some ([], rest)
      else
        match rest with
        | '\'' :: '\'' :: rest' => some ([], rest')
        | _ => (untilQuotes? lines rest).map (before ['\''])
  | c :: rest => (untilQuotes? lines rest).map (before [c])

/-- A literal string after its opening quotes, and the text after its closing quotes. -/
def readLiteral (lines : Bool) (cs : List Char) : Except Fault (List Char × List Char) := do
  let (text, after) ← orFault (.openLiteral (if lines then "'''" else "'")) (untilQuotes? lines cs)
  match text.find? fun c => isControl c && !(lines && c == '\n') with
  | some c => .error (.control c)
  | none => .ok (text, after)

/-! ## Strings -/

/-- Up to two more quotes after the closing ones belong to the string. -/
def moreQuotes (quote : Char) : List Char × List Char → List Char × List Char
  | (text, c :: d :: rest) =>
      if c == quote && d == quote then (text ++ [quote, quote], rest)
      else if c == quote then (text ++ [quote], d :: rest)
      else (text, c :: d :: rest)
  | (text, [c]) => if c == quote then (text ++ [quote], []) else (text, [c])
  | (text, []) => (text, [])

/-- The text without a line break at its start. -/
def dropBreak : List Char → List Char
  | '\n' :: rest => rest
  | cs => cs

/-- A string of any of the four kinds, and the text after it. -/
def readString : List Char → Except Fault (List Char × List Char)
  | '"' :: '"' :: '"' :: rest => (readBasic true false (dropBreak rest)).map (moreQuotes '"')
  | '"' :: rest => readBasic false false rest
  | '\'' :: '\'' :: '\'' :: rest => (readLiteral true (dropBreak rest)).map (moreQuotes '\'')
  | '\'' :: rest => readLiteral false rest
  | _ => .error .noValue

/-! ## Keys -/

/-- A character of a key without quotes. -/
def isKeyChar (c : Char) : Bool := isLetter c || isAsciiDigit c || c == '-' || c == '_'

/-- Whether a character may start a key. -/
def startsKey (c : Char) : Bool := isKeyChar c || c == '"' || c == '\''

/-- One part of a key, and the text after it. -/
def readKeyPart : List Char → Except Fault (String × List Char)
  | '"' :: rest => (readBasic false false rest).map fun (text, after) => (String.ofList text, after)
  | '\'' :: rest => (readLiteral false rest).map fun (text, after) => (String.ofList text, after)
  | cs =>
      let name := cs.takeWhile isKeyChar
      if name.isEmpty then .error .noKey else .ok (String.ofList name, cs.dropWhile isKeyChar)

/-- A key of parts joined by points, and the text after it and its blanks. -/
def readKey : (fuel : Nat) → List Char → Except Fault (List String × List Char)
  | 0, _ => .error .noKey
  | fuel + 1, cs => do
      let (name, rest) ← readKeyPart cs
      match skipGaps rest with
      | '.' :: rest' =>
          let (names, after) ← readKey fuel (skipGaps rest')
          .ok (name :: names, after)
      | rest' => .ok ([name], rest')

end FuzzSynth.Toml
