/-
Lifetimes.

A lifetime is an apostrophe followed by an identifier (`'a`, `'static`).  It may
stand after `&` and among type arguments; it says nothing about which type is
meant, so reading a type drops it.
-/
import FuzzSynth.Text.Blank

namespace FuzzSynth.Text

/-- The text without the lifetime it begins with and the blanks after that. -/
def dropLifetime : List Char → List Char
  | '\'' :: c :: rest =>
      if isIdentStart c then (rest.dropWhile isIdentChar).dropWhile isBlank else '\'' :: c :: rest
  | cs => cs

/-- Whether a type argument is a lifetime rather than a type. -/
def isLifetime (cs : List Char) : Bool :=
  (trimLeft cs).head? == some '\''

theorem length_dropLifetime_le (cs : List Char) : (dropLifetime cs).length ≤ cs.length := by
  unfold dropLifetime
  split
  · split
    · next c rest _ =>
        have h₁ := length_dropWhile_le isBlank (rest.dropWhile isIdentChar)
        have h₂ := length_dropWhile_le isIdentChar rest
        simp only [List.length_cons]
        omega
    · exact Nat.le_refl _
  · exact Nat.le_refl _

end FuzzSynth.Text
