/-
Names, numbers and quoted texts.

`lexeme` finds the token that a text starts with, where it starts with no blank and no
end of a line: the longest name, number, quoted text or mark.  Of what continues a name
only some words may follow a number at once.
-/
import FuzzSynth.Literal.Token
import FuzzSynth.Text.Identifier

namespace FuzzSynth.Literal

open FuzzSynth.Text

/-- A character that may belong to a name, as far as can be told without its class. -/
def isNameLike (c : Char) : Bool :=
  isIdentChar c || 0x80 ≤ c.toNat

/-- A digit below a base that is at most ten. -/
def isDigitBelow (base : Nat) (c : Char) : Bool :=
  isAsciiDigit c && c.toNat < 0x30 + base

/-- A hexadecimal digit. -/
def isHexDigit (c : Char) : Bool := (hexValue? c).isSome

/-! ## Numbers -/

/-- What follows a run of digits, in which single underscores stand between digits; an
error is what stands after an underscore in place of a digit. -/
def afterDigits (isDigit : Char → Bool) : List Char → Except (List Char) (List Char)
  | '_' :: rest =>
      match rest with
      | d :: more => if isDigit d then afterDigits isDigit more else .error rest
      | [] => .error []
  | c :: rest => if isDigit c then afterDigits isDigit rest else .ok (c :: rest)
  | [] => .ok []

/-- What follows one or more digits after the letter for a base, which one underscore may
precede. -/
def afterBase (isDigit : Char → Bool) : List Char → Except (List Char) (List Char)
  | '_' :: rest => afterDigits isDigit ('_' :: rest)
  | c :: rest => if isDigit c then afterDigits isDigit rest else .error (c :: rest)
  | [] => .error []

/-- The words that may follow a number at once. -/
def numberFollowers : List String :=
  ["and", "else", "for", "not", "or"]

/-- The beginnings of words that may follow a number at once. -/
def numberFollowerStarts : List String :=
  ["if", "in", "is"]

/-- Whether a text may follow a number at once: it starts with one of some words, or with a
character that starts none. -/
def mayFollowNumber (cs : List Char) : Bool :=
  numberFollowers.contains (String.ofList (cs.takeWhile isNameLike)) ||
    numberFollowerStarts.any (·.toList.isPrefixOf cs) ||
    !cs.head?.any isIdentChar

/-- What follows a number, which has to end there. -/
def endNumber (n : Numeral) (rest : List Char) : Except Fault (List Char) :=
  if mayFollowNumber rest then .ok rest else .error (.badNumber n)

/-- What follows the digits of a whole number in a base other than ten. -/
def afterWhole (n : Numeral) (isDigit : Char → Bool) (cs : List Char) :
    Except Fault (List Char) :=
  let tooGreat := fun (rest : List Char) =>
    match rest with
    | c :: _ => if isAsciiDigit c then some (Fault.badDigit c n) else none
    | [] => none
  match afterBase isDigit cs with
  | .error rest => .error ((tooGreat rest).getD (.badNumber n))
  | .ok rest =>
      match tooGreat rest with
      | some fault => .error fault
      | none => endNumber n rest

/-- Digits of a decimal number and what follows them. -/
def afterDecimals (cs : List Char) : Except Fault (List Char) :=
  (afterDigits isAsciiDigit cs).mapError fun _ => .badNumber .decimal

/-- Whether a text starts with the letter for an exponent. -/
def startsExponent (cs : List Char) : Bool :=
  cs.head?.any fun c => c == 'e' || c == 'E'

/-- Whether a text starts with the letter for an imaginary number. -/
def startsImaginary (cs : List Char) : Bool :=
  cs.head?.any fun c => c == 'j' || c == 'J'

/-- What follows the end of a decimal number, which may have the mark of an imaginary one. -/
def afterImaginary (cs : List Char) : Except Fault (List Char) :=
  if startsImaginary cs then endNumber .imaginary (cs.drop 1) else endNumber .decimal cs

/-- What follows the exponent of a decimal number, where its letter stands first. -/
def afterExponent (cs : List Char) : Except Fault (List Char) :=
  match cs.drop 1 with
  | sign :: rest =>
      if sign == '+' || sign == '-' then
        match rest with
        | d :: more =>
            if isAsciiDigit d then afterDecimals more >>= afterImaginary
            else .error (.badNumber .decimal)
        | [] => .error (.badNumber .decimal)
      else if isAsciiDigit sign then afterDecimals rest >>= afterImaginary
      else endNumber .decimal cs
  | [] => endNumber .decimal cs

/-- What follows the digits of the whole part or of the fraction. -/
def afterMantissa (cs : List Char) : Except Fault (List Char) :=
  if startsExponent cs then afterExponent cs else afterImaginary cs

/-- What follows the point of a decimal number. -/
def afterPoint (cs : List Char) : Except Fault (List Char) :=
  match cs with
  | d :: rest => if isAsciiDigit d then afterDecimals rest >>= afterMantissa else afterMantissa cs
  | [] => afterMantissa []

/-- What follows a decimal number, of which the first digit has been read. -/
def afterDecimal (first : Char) (cs : List Char) : Except Fault (List Char) := do
  let rest ← afterDecimals cs
  let digits := cs.take (cs.length - rest.length)
  match rest with
  | '.' :: more => afterPoint more
  | rest =>
      if startsExponent rest then afterExponent rest
      else if startsImaginary rest then afterImaginary rest
      else if first == '0' && digits.any (fun c => isAsciiDigit c && c != '0') then
        .error .leadingZeros
      else endNumber .decimal rest

/-- What follows the number that a text starts with. -/
def afterNumber : List Char → Except Fault (List Char)
  | '0' :: c :: rest =>
      if c == 'x' || c == 'X' then
        match afterBase isHexDigit rest with
        | .ok more => endNumber .hexadecimal more
        | .error _ => .error (.badNumber .hexadecimal)
      else if c == 'o' || c == 'O' then afterWhole .octal (isDigitBelow 8) rest
      else if c == 'b' || c == 'B' then afterWhole .binary (isDigitBelow 2) rest
      else afterDecimal '0' (c :: rest)
  | '.' :: rest => afterPoint rest
  | first :: rest => afterDecimal first rest
  | [] => .ok []

/-! ## Quoted texts -/

/-- The letters that may stand before a quote. -/
def textLetters : List String :=
  ["b", "r", "u", "f", "br", "rb", "fr", "rf"]

/-- What a quoted text is. -/
structure TextForm where
  /-- Whether it holds bytes. -/
  isBytes : Bool
  /-- Whether a backslash stands for itself. -/
  isRaw : Bool
  /-- Whether it has fields in braces. -/
  hasFields : Bool
  deriving DecidableEq, Repr, Inhabited

/-- The form of a quoted text by the letters before the quote. -/
def TextForm.ofLetters (letters : List Char) : TextForm :=
  let has := fun (c : Char) => letters.any (·.toLower == c)
  ⟨has 'b', has 'r', has 'f'⟩

/-- How many characters of a text stand before the end of the closing quotes, of which
`found` have been found; an error is how many there are if it has no such end. -/
def quotedLength (quote : Char) (triple : Bool) : (found : Nat) → List Char → Except Nat Nat
  | _, [] => .error 0
  | _, ['\\'] => .error 1
  | found, c :: d :: rest =>
      if c == '\\' then (quotedLength quote triple 0 rest).map (· + 2) |>.mapError (· + 2)
      else if c == quote && (!triple || found == 2) then .ok 1
      else if c == '\n' && !triple then .error 0
      else
        (quotedLength quote triple (if c == quote then found + 1 else 0) (d :: rest)).map (· + 1)
          |>.mapError (· + 1)
  | found, [c] =>
      if c == quote && (!triple || found == 2) then .ok 1
      else if c == '\n' && !triple then .error 0
      else .error 1

/-- How many characters the quoted text has that a text on this line starts with. -/
def textLength (line : Nat) : List Char → Except Fault Nat
  | quote :: a :: b :: rest =>
      if a == quote && b == quote then
        match quotedLength quote true 0 rest with
        | .ok n => .ok (n + 3)
        | .error n => .error (.openText true (line + (rest.take n).count '\n'))
      else if a == quote then .ok 2
      else one quote (a :: b :: rest)
  | [quote, a] => if a == quote then .ok 2 else one quote [a]
  | quote :: rest => one quote rest
  | [] => .ok 0
where
  /-- The same, after one quote. -/
  one (quote : Char) (cs : List Char) : Except Fault Nat :=
    match quotedLength quote false 0 cs with
    | .ok n => .ok (n + 1)
    | .error n => .error (.openText false (line + (cs.take n).count '\n'))

/-! ## Lexemes -/

/-- The kind of a token, and how many characters it has. -/
structure Lexeme where
  kind : Kind
  length : Nat
  deriving DecidableEq, Repr, Inhabited

/-- The word that a text starts with, which is not empty. -/
def wordLexeme (cs : List Char) : Except Fault Lexeme :=
  let word := cs.takeWhile isNameLike
  match misplaced? word with
  | some c => .error (.badCharacter c)
  | none =>
      .ok ⟨if keywords.contains (String.ofList word) then .keyword else .name, word.length⟩

/-- The mark that a text starts with. -/
def markLexeme (cs : List Char) : Lexeme :=
  if longMarks.any (·.toList.isPrefixOf cs) then ⟨.mark, 3⟩
  else if pairMarks.any (·.toList.isPrefixOf cs) then ⟨.mark, 2⟩
  else ⟨.mark, 1⟩

/-- Whether a text starts with a quote. -/
def startsQuote (cs : List Char) : Bool :=
  cs.head?.any fun c => c == '\'' || c == '"'

/-- The token that a text on this line starts with. -/
def lexeme (line : Nat) (cs : List Char) : Except Fault Lexeme :=
  let letters := cs.takeWhile isNameLike
  let afterLetters := cs.dropWhile isNameLike
  if startsQuote afterLetters &&
      (letters.isEmpty || textLetters.contains (String.ofList (letters.map Char.toLower))) then
    (textLength line afterLetters).map fun n => ⟨.text, letters.length + n⟩
  else
    match cs with
    | c :: rest =>
        if isAsciiDigit c || (c == '.' && rest.head?.any isAsciiDigit) then
          (afterNumber cs).map fun more => ⟨.number, cs.length - more.length⟩
        else if isNameLike c then wordLexeme cs
        else .ok (markLexeme cs)
    | [] => .ok ⟨.mark, 0⟩

end FuzzSynth.Literal
