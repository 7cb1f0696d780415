/-
Path names.

A path is identifiers joined by `::`, such as `std::string::String`.  `pathName?`
reads the longest path at the start of a text and returns it with the rest.
-/
import FuzzSynth.Text.Ranges

namespace FuzzSynth.Text

/-- What continues a path in the middle of an identifier, and what follows it: more of
the identifier, or `::` and the start of the next one. -/
def pathTail : List Char → List Char × List Char
  | [] => ([], [])
  | ':' :: ':' :: c :: rest =>
      if isIdentStart c then (':' :: ':' :: c :: (pathTail rest).1, (pathTail rest).2)
      else ([], ':' :: ':' :: c :: rest)
  | c :: rest =>
      if isIdentChar c then (c :: (pathTail rest).1, (pathTail rest).2) else ([], c :: rest)

/-- The longest path at the start of a text, and the rest. -/
def pathName? : List Char → Option (List Char × List Char)
  | [] => none
  | c :: rest =>
      if isIdentStart c then some (c :: (pathTail rest).1, (pathTail rest).2) else none

/-- Cutting off a path loses nothing. -/
theorem pathTail_append (cs : List Char) : (pathTail cs).1 ++ (pathTail cs).2 = cs := by
  fun_induction pathTail cs <;> simp_all

theorem append_of_pathName? {cs path rest : List Char} (h : pathName? cs = some (path, rest)) :
    path ++ rest = cs := by
  cases cs with
  | nil => simp [pathName?] at h
  | cons c tail =>
      simp only [pathName?] at h
      split at h
      · obtain ⟨rfl, rfl⟩ : _ ∧ _ := by simpa using h
        simp [pathTail_append]
      · simp at h

theorem length_lt_of_pathName? {cs path rest : List Char} (h : pathName? cs = some (path, rest)) :
    rest.length < cs.length := by
  have happ := append_of_pathName? h
  cases cs with
  | nil => simp [pathName?] at h
  | cons c tail =>
      simp only [pathName?] at h
      split at h
      · obtain ⟨rfl, rfl⟩ : _ ∧ _ := by simpa using h
        have := congrArg List.length happ
        simp only [List.length_append, List.length_cons] at this ⊢
        omega
      · simp at h

end FuzzSynth.Text
