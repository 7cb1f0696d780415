/-
Facts files.

A facts file is a JSON document that a validator accepts.  What goes wrong in reading it
is told with the path that was asked for.
-/
import FuzzSynth.Files.Tree
import FuzzSynth.Json.Reader
import FuzzSynth.Validation.Validator

namespace FuzzSynth

/-- Why there are no facts. -/
inductive FactsError where
  /-- The file cannot be read. -/
  | unreadable (fault : FileFault)
  | malformed
  /-- A number in the file has too many digits. -/
  | tooManyDigits (count : Nat)
  | invalid (complaint : Complaint)
  deriving DecidableEq, Repr, Inhabited

/-- What is said about facts that cannot be had from a path. -/
def FactsError.message (path : String) : FactsError → String
  | unreadable fault => FileError.message ⟨fault, path⟩
  | malformed => path ++ " is not valid JSON"
  | tooManyDigits count => Text.tooManyDigitsText count
  | invalid complaint => path ++ " is not a valid facts document: " ++ complaint.text

namespace Document

/-- The facts in a text. -/
def ofText (validator : Validator) (text : String) : Except FactsError Document :=
  match Json.read text with
  | .error .malformed => .error .malformed
  | .error (.tooManyDigits n) => .error (.tooManyDigits n)
  | .ok value => (validator.document value).mapError .invalid

/-- The facts in the file that a path leads to. -/
def load (validator : Validator) (tree : FileTree) (base : Location) (path : FilePath) :
    Except FactsError Document :=
  match tree.read base path with
  | .error fault => .error (.unreadable fault)
  | .ok text => ofText validator text

end Document

end FuzzSynth
