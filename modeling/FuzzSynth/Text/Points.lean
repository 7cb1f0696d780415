/-
Code points as text.

A text from outside is a list of code points, and some of them may be surrogates that
stand alone; no `Char` is one.  `ofPoints` keeps such a text in characters all the same:
a surrogate becomes a pair of `U+E000` and a private character, and `U+E000` itself
becomes such a pair too, so that nothing else is mistaken for a surrogate; every other
code point is its own character.  `toPoints` is the way back.
The pairs are in the order of what they stand for, between the characters that come
before and after it, so texts are in the order of their code points.
-/
namespace FuzzSynth.Text

/-- Whether a code point is half of a surrogate pair. -/
def isSurrogate (n : Nat) : Bool := 0xD800 ≤ n && n ≤ 0xDFFF

/-- The character that a pair begins with. -/
def pairMark : Char := Char.ofNat 0xE000

/-- Whether a code point is kept as a pair. -/
def isPaired (n : Nat) : Bool := 0xD800 ≤ n && n ≤ 0xE000

/-- The characters that a code point is kept in. -/
def ofPoint (n : Nat) : List Char :=
  if isPaired n then [pairMark, Char.ofNat (n + 0x800)] else [Char.ofNat n]

/-- The characters that code points are kept in. -/
def ofPoints (points : List Nat) : List Char :=
  points.flatMap ofPoint

/-- The code points that are kept in characters. -/
def toPoints : List Char → List Nat
  | [] => []
  | [c] => [c.toNat]
  | c :: d :: rest =>
      if c = pairMark ∧ 0xE000 ≤ d.toNat ∧ d.toNat ≤ 0xE800 then (d.toNat - 0x800) :: toPoints rest
      else c.toNat :: toPoints (d :: rest)

/-- Whether a text has a surrogate that stands alone. -/
def hasUnpaired (s : String) : Bool :=
  (toPoints s.toList).any isSurrogate

/-- A text of characters alone, kept like any other text. -/
def kept (s : String) : String :=
  String.ofList (ofPoints (s.toList.map Char.toNat))

/-- A text for display, with the replacement character for surrogates. -/
def displayed (s : String) : String :=
  String.ofList ((toPoints s.toList).map fun n => Char.ofNat (if isSurrogate n then 0xFFFD else n))

theorem toNat_ofNat {n : Nat} (h : n.isValidChar) : (Char.ofNat n).toNat = n := by
  rw [Char.ofNat, dif_pos h]
  rfl

end FuzzSynth.Text
