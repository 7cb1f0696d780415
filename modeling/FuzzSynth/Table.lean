/-
Tables.

A table has a title, a row of column headers and rows of cells.  Cells are texts
and may hold style tags.
-/
namespace FuzzSynth

/-- A table of texts. -/
structure Table where
  title : String
  columns : List String
  rows : List (List String)
  deriving DecidableEq, Repr, Inhabited

end FuzzSynth
