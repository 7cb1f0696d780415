/-
Character classes given by code point ranges.

A class of Unicode characters is a short list of inclusive ranges; `Ranges.holds`
tests a character against it.  The tables of the other text modules are such
lists, each named for the property it holds.
-/
namespace FuzzSynth.Text

/-- Inclusive code point ranges, in increasing order. -/
abbrev Ranges := List (Nat × Nat)

namespace Ranges

/-- Whether a character lies in one of the ranges. -/
def holds (ranges : Ranges) (c : Char) : Bool :=
  ranges.any fun range => range.1 ≤ c.toNat && c.toNat ≤ range.2

theorem holds_iff {ranges : Ranges} {c : Char} :
    ranges.holds c = true ↔ ∃ range ∈ ranges, range.1 ≤ c.toNat ∧ c.toNat ≤ range.2 := by
  simp [holds]

end Ranges

/-- ASCII letters. -/
def isLetter (c : Char) : Bool :=
  ('a' ≤ c && c ≤ 'z') || ('A' ≤ c && c ≤ 'Z')

/-- ASCII digits. -/
def isAsciiDigit (c : Char) : Bool :=
  '0' ≤ c && c ≤ '9'

/-- A character that may begin an identifier: an ASCII letter or `_`. -/
def isIdentStart (c : Char) : Bool :=
  isLetter c || c == '_'

/-- A character that may continue an identifier: an ASCII letter, a digit or `_`. -/
def isIdentChar (c : Char) : Bool :=
  isIdentStart c || isAsciiDigit c

theorem isIdentChar_of_isIdentStart {c : Char} (h : isIdentStart c = true) :
    isIdentChar c = true := by
  simp [isIdentChar, h]

end FuzzSynth.Text
