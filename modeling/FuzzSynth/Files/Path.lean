/-
File paths.

A path is names joined by `/`, from the root or from wherever one stands.  Empty names
mean nothing.  `.` leads nowhere else, but only a folder has it; `..` leads to the folder
around.  In the normal form of a path empty names and `.` are left out, and a slash at
the end with them; `..` is kept, since what it leads to depends on the files that are
there.
-/
import FuzzSynth.Text.Split

namespace FuzzSynth

/-- A path to a file or a folder, as it is written. -/
structure FilePath where
  text : String
  deriving DecidableEq, Repr, Inhabited

namespace FilePath

/-- The slashes that a path begins with, one or two or none; more than two count as one. -/
def rootOf (s : String) : String :=
  match (s.toList.takeWhile (· == '/')).length with
  | 0 => ""
  | 2 => "//"
  | _ => "/"

/-- The names between slashes that are not empty. -/
def namesOf (s : String) : List String :=
  ((Text.splitAll '/' s.toList).map String.ofList).filter (· != "")

/-- Whether a path starts from the root. -/
def isAbsolute (p : FilePath) : Bool :=
  rootOf p.text != ""

/-- The names on the way along a path; what a slash ends has to be a folder. -/
def steps (p : FilePath) : List String :=
  namesOf p.text ++ (if p.text.toList.getLast? = some '/' then ["."] else [])

/-- The normal path of a root and names; where one stands is written `.`. -/
def ofNames (root : String) (names : List String) : FilePath :=
  let kept := names.filter (· != ".")
  if root.isEmpty && kept.isEmpty then ⟨"."⟩ else ⟨root ++ "/".intercalate kept⟩

/-- The normal form of a path. -/
def normal (s : String) : FilePath :=
  ofNames (rootOf s) (namesOf s)

/-- A normal path without its last name. -/
def parent (p : FilePath) : FilePath :=
  ofNames (rootOf p.text) (namesOf p.text).dropLast

/-- A normal path and those above it, the innermost first. -/
def withParents (p : FilePath) : List FilePath :=
  let names := namesOf p.text
  ((List.range (names.length + 1)).map fun n => ofNames (rootOf p.text) (names.take n)).reverse

end FilePath

end FuzzSynth
