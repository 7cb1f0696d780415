/-
Splitting outside brackets.

`splitOutside` cuts a text at the separators that stand at bracket depth zero.
The three kinds of bracket are counted together: `<`, `[` and `(` open a level,
`>`, `]` and `)` close one.  The cut fails exactly when a level is closed that
was never opened, or one is left open at the end.

`chunks` is the cut itself, which loses nothing but the separators; the parts are
the chunks trimmed, without a last part that is empty.
-/
import FuzzSynth.Text.Blank
import FuzzSynth.Text.Points

namespace FuzzSynth.Text

/-- A character that opens a bracket level. -/
def isOpener (c : Char) : Bool :=
  c == '<' || c == '[' || c == '('

/-- A character that closes a bracket level. -/
def isCloser (c : Char) : Bool :=
  c == '>' || c == ']' || c == ')'

/-- Puts an element in front of the first chunk. -/
def consChunk {α : Type} (a : α) : List (List α) → List (List α)
  | [] => [[a]]
  | chunk :: rest => (a :: chunk) :: rest

/-- The chunks between separators at depth zero, when the text starts at bracket
depth `depth`; `charOf` is the character that an element of the text stands for. -/
def chunks {α : Type} (charOf : α → Char) (isSeparator : α → Bool) :
    (depth : Nat) → List α → Option (List (List α))
  | 0, [] => some [[]]
  | _ + 1, [] => none
  | depth, a :: rest =>
      if isOpener (charOf a) then (chunks charOf isSeparator (depth + 1) rest).map (consChunk a)
      else if isCloser (charOf a) then
        match depth with
        | 0 => none
        | outer + 1 => (chunks charOf isSeparator outer rest).map (consChunk a)
      else if isSeparator a && depth == 0 then (chunks charOf isSeparator 0 rest).map ([] :: ·)
      else (chunks charOf isSeparator depth rest).map (consChunk a)

/-- Trims each chunk and leaves out the last one if nothing is left of it. -/
def trimChunks : List (List Char) → List (List Char)
  | [] => []
  | [last] => if trim last = [] then [] else [trim last]
  | chunk :: rest => trim chunk :: trimChunks rest

/-- The trimmed parts of a text between separators that stand outside brackets;
`none` when the brackets do not balance. -/
def splitOutside (isSeparator : Char → Bool) (cs : List Char) : Option (List (List Char)) :=
  (chunks id isSeparator 0 cs).map trimChunks

/-- The trimmed parts of a text of code points between a code point that stands outside
brackets; `none` when the brackets do not balance. -/
def splitPointsOutside (separator : Option Nat) (points : List Nat) : Option (List (List Char)) :=
  (chunks Char.ofNat (fun n => separator == some n) 0 points).map fun pieces =>
    trimChunks (pieces.map ofPoints)

/-! ## Lengths -/

theorem length_le_of_mem_consChunk {α : Type} {a : α} {pieces : List (List α)} {n : Nat}
    (h : ∀ piece ∈ pieces, piece.length ≤ n) :
    ∀ piece ∈ consChunk a pieces, piece.length ≤ n + 1 := by
  intro piece hp
  cases pieces with
  | nil => simp_all [consChunk]
  | cons head tail =>
      simp only [consChunk, List.mem_cons] at hp
      rcases hp with rfl | hp
      · have := h head (by simp)
        simp only [List.length_cons]
        omega
      · have := h piece (by simp [hp])
        omega

theorem length_le_of_mem_chunks {α : Type} {charOf : α → Char} {isSeparator : α → Bool}
    {depth : Nat} {as : List α} {pieces : List (List α)}
    (h : chunks charOf isSeparator depth as = some pieces) :
    ∀ piece ∈ pieces, piece.length ≤ as.length := by
  fun_induction chunks charOf isSeparator depth as generalizing pieces with
  | case1 =>
      obtain rfl : [[]] = pieces := by simpa using h
      simp
  | case2 => simp at h
  | case3 depth c rest _ ih =>
      obtain ⟨inner, hi, rfl⟩ := Option.map_eq_some_iff.mp h
      exact length_le_of_mem_consChunk (ih hi)
  | case4 => simp at h
  | case5 c rest _ _ outer ih =>
      obtain ⟨inner, hi, rfl⟩ := Option.map_eq_some_iff.mp h
      exact length_le_of_mem_consChunk (ih hi)
  | case6 depth c rest _ _ _ ih =>
      obtain ⟨inner, hi, rfl⟩ := Option.map_eq_some_iff.mp h
      intro piece hp
      rcases List.mem_cons.mp hp with rfl | hp
      · simp
      · exact Nat.le_succ_of_le (ih hi piece hp)
  | case7 depth c rest _ _ _ ih =>
      obtain ⟨inner, hi, rfl⟩ := Option.map_eq_some_iff.mp h
      exact length_le_of_mem_consChunk (ih hi)

theorem length_le_of_mem_trimChunks {pieces : List (List Char)} {n : Nat}
    (h : ∀ piece ∈ pieces, piece.length ≤ n) :
    ∀ part ∈ trimChunks pieces, part.length ≤ n := by
  fun_induction trimChunks pieces with
  | case1 => simp
  | case2 => simp
  | case3 last _ =>
      intro part hp
      have : part = trim last := by simpa using hp
      exact this ▸ Nat.le_trans (length_trim_le last) (h last (by simp))
  | case4 chunk rest _ ih =>
      intro part hp
      rcases List.mem_cons.mp hp with rfl | hp
      · exact Nat.le_trans (length_trim_le chunk) (h chunk (by simp))
      · exact ih (fun piece hq => h piece (by simp [hq])) part hp

/-- No part is longer than the text it was cut from. -/
theorem length_le_of_mem_splitOutside {isSeparator : Char → Bool} {cs : List Char}
    {parts : List (List Char)} (h : splitOutside isSeparator cs = some parts) :
    ∀ part ∈ parts, part.length ≤ cs.length := by
  obtain ⟨pieces, hp, rfl⟩ := Option.map_eq_some_iff.mp h
  exact length_le_of_mem_trimChunks (length_le_of_mem_chunks hp)

end FuzzSynth.Text
