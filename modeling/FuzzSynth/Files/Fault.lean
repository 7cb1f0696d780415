/-
What goes wrong with files.

A fault says why a path cannot be followed, read or written; a `FileError` is a fault
with the path that was asked for.
-/
import FuzzSynth.Files.Path
import FuzzSynth.Json.Writer
import FuzzSynth.Text.Bytes
import FuzzSynth.Text.Quoted

namespace FuzzSynth

/-- What may be in the way of reading or writing. -/
inductive FileFault where
  | missing
  | present
  | notFolder
  | isFolder
  | nameTooLong
  /-- The path has a NUL, which no name has. -/
  | nul
  /-- The path has code points that no bytes stand for. -/
  | unencodable (u : Text.Unencodable)
  deriving DecidableEq, Repr, Inhabited

/-- A fault and the path that was asked for. -/
structure FileError where
  fault : FileFault
  path : String
  deriving DecidableEq, Repr, Inhabited

/-- What is said about a numbered fault. -/
def FileError.numbered (number : Nat) (words path : String) : String :=
  "[Errno " ++ Json.intText number ++ "] " ++ words ++ ": " ++ Text.quoted path

/-- What is said about a fault. -/
def FileError.message (e : FileError) : String :=
  match e.fault with
  | .missing => numbered 2 "No such file or directory" e.path
  | .present => numbered 17 "File exists" e.path
  | .notFolder => numbered 20 "Not a directory" e.path
  | .isFolder => numbered 21 "Is a directory" e.path
  | .nameTooLong => numbered 36 "File name too long" e.path
  | .nul => "embedded null byte"
  | .unencodable u => u.message

namespace FilePath

/-- The number of bytes from which on a path is too long. -/
def sizeLimit : Nat := 4096

/-- The greatest number of bytes of a name. -/
def nameLimit : Nat := 255

/-- What keeps a path from being followed at all, whatever files there are. -/
def fault? (p : FilePath) : Option FileFault :=
  match Text.unencodableName? p.text with
  | some u => some (.unencodable u)
  | none =>
      if p.text.toList.contains (Char.ofNat 0) then some .nul
      else if p.text.isEmpty then some .missing
      else if sizeLimit ≤ Text.nameSize p.text then some .nameTooLong
      else none

end FilePath

end FuzzSynth
