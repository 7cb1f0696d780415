/-
Texts as bytes.

A code point takes one to four bytes of UTF-8; a surrogate that stands alone has no bytes
(`unencodable?`).  In the name of a file the surrogates from `U+DC80` to `U+DCFF` stand
for single bytes that belong to no character.
-/
import FuzzSynth.Sequence
import FuzzSynth.Text.Digit
import FuzzSynth.Text.Points
import FuzzSynth.Text.Quoted

namespace FuzzSynth.Text

/-- Whether a code point stands for a single byte of a name. -/
def isNameByte (n : Nat) : Bool := 0xDC80 ≤ n && n ≤ 0xDCFF

/-- How many bytes a code point of a name takes. -/
def pointSize (n : Nat) : Nat :=
  if n < 0x80 || isNameByte n then 1 else if n < 0x800 then 2 else if n < 0x10000 then 3 else 4

/-- How many bytes a name takes. -/
def nameSize (s : String) : Nat :=
  Sequence.total ((toPoints s.toList).map pointSize)

/-- Neighbouring surrogates of a text that have no bytes. -/
structure Unencodable where
  /-- The first of them. -/
  point : Nat
  /-- The position of the first of them. -/
  first : Nat
  /-- The position of the last of them. -/
  last : Nat
  deriving DecidableEq, Repr, Inhabited

/-- The first code points without bytes in a text that starts at a position. -/
def unencodableFrom? (hasBytes : Nat → Bool) : (position : Nat) → List Nat → Option Unencodable
  | _, [] => none
  | position, n :: rest =>
      if isSurrogate n && !hasBytes n then
        some ⟨n, position, position + (rest.takeWhile isSurrogate).length⟩
      else unencodableFrom? hasBytes (position + 1) rest

/-- What keeps a text from being written to a file. -/
def unencodable? (s : String) : Option Unencodable :=
  unencodableFrom? (fun _ => false) 0 (toPoints s.toList)

/-- What keeps a text from being the name of a file. -/
def unencodableName? (s : String) : Option Unencodable :=
  unencodableFrom? isNameByte 0 (toPoints s.toList)

/-- What is said about a text that cannot be written as bytes. -/
def Unencodable.message (u : Unencodable) : String :=
  let position := fun n => String.ofList (decimalDigits n)
  "'utf-8' codec can't encode " ++
    (if u.first = u.last then
      "character '\\u" ++ String.ofList (hexDigits 4 u.point) ++ "' in position " ++ position u.first
    else "characters in position " ++ position u.first ++ "-" ++ position u.last) ++
    ": surrogates not allowed"

end FuzzSynth.Text
