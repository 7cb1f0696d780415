/-
Splitting at a mark.

`splitAll` cuts a text at every occurrence of a character.  There is always at
least one part, no part holds the mark, and the parts joined by the mark are the
text again.
-/
namespace FuzzSynth.Text

/-- The parts of a text between the occurrences of a mark. -/
def splitAll (mark : Char) : List Char → List (List Char)
  | [] => [[]]
  | c :: rest =>
      if c = mark then [] :: splitAll mark rest
      else
        match splitAll mark rest with
        | [] => [[c]]
        | part :: parts => (c :: part) :: parts

/-- Joins parts with a mark between them. -/
def joinWith (mark : Char) : List (List Char) → List Char
  | [] => []
  | [part] => part
  | part :: parts => part ++ mark :: joinWith mark parts

end FuzzSynth.Text
