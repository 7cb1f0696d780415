/-
Escaping for styled text.

Messages are printed with style tags in brackets (`[cyan]`, `[/cyan]`).  `escape`
makes a plain text safe to stand between tags: each run of backslashes that is
followed by something that reads as a tag is doubled and one more is added, and a
single backslash at the end is doubled, so it cannot escape the tag that follows.
-/
namespace FuzzSynth.Text

/-- A character that may follow the bracket of a tag. -/
def isTagStart (c : Char) : Bool :=
  ('a' ≤ c && c ≤ 'z') || c == '#' || c == '/' || c == '@'

/-- The number of characters from here to the `]` that closes a tag, that `]`
included; a `[` on the way means that there is no tag. -/
def closingDistance? : List Char → Option Nat
  | [] => none
  | c :: rest =>
      if c == '[' then none
      else if c == ']' then some 1
      else (closingDistance? rest).map (· + 1)

/-- The length of the tag whose `[` stands just before this text. -/
def tagLength? : List Char → Option Nat
  | [] => none
  | c :: rest => if isTagStart c then (closingDistance? rest).map (· + 1) else none

/-- Escapes tags: `slashes` backslashes have been read and not yet written, and
the next `verbatim` characters belong to a tag already escaped. -/
def escapeTags : (slashes verbatim : Nat) → List Char → List Char
  | slashes, _, [] => List.replicate slashes '\\'
  | slashes, verbatim + 1, c :: rest => c :: escapeTags slashes verbatim rest
  | slashes, 0, c :: rest =>
      if c == '\\' then escapeTags (slashes + 1) 0 rest
      else if c == '[' then
        match tagLength? rest with
        | some n => List.replicate (2 * slashes + 1) '\\' ++ c :: escapeTags 0 n rest
        | none => List.replicate slashes '\\' ++ c :: escapeTags 0 0 rest
      else List.replicate slashes '\\' ++ c :: escapeTags 0 0 rest

/-- Doubles a backslash that stands alone at the end. -/
def closeSlash (cs : List Char) : List Char :=
  match cs.reverse with
  | '\\' :: '\\' :: _ => cs
  | '\\' :: _ => cs ++ ['\\']
  | _ => cs

/-- A plain text, made safe to stand in styled text. -/
def escape (s : String) : String :=
  String.ofList (closeSlash (escapeTags 0 0 s.toList))

end FuzzSynth.Text
