/-
What a command gives.

A command shows entries of the record, tables and lines, in order, may change files,
and ends with a code.  What it cannot tell the user about itself is a failure.
-/
import FuzzSynth.Config.Source
import FuzzSynth.Files.Tree
import FuzzSynth.Instance.Instantiate
import FuzzSynth.Log
import FuzzSynth.Table

namespace FuzzSynth.Command

/-- Something that is shown. -/
inductive Output where
  | entry (e : LogEntry)
  | table (t : Table)
  /-- A line of text; in a styled one, tags have a meaning. -/
  | line (text : String) (styled : Bool)
  deriving DecidableEq, Repr, Inhabited

namespace Output

/-- The texts in which tags have a meaning. -/
def styledTexts : Output → List String
  | entry e => if e.isNotice then [e.text] else []
  | table t => t.title :: t.columns ++ t.rows.flatten
  | line text styled => if styled then [text] else []

/-- Whether something is shown at all. -/
def isShown (verbose : Bool) : Output → Bool
  | entry e => verbose || e.level != .debug
  | _ => true

/-- The entries of the record. -/
def log (shown : List Output) : Log :=
  shown.filterMap fun
    | entry e => some e
    | _ => none

/-- Everything but the record. -/
def printed (shown : List Output) : List Output :=
  shown.filter fun
    | entry _ => false
    | _ => true

/-- A record as something that is shown. -/
def ofLog (log : Log) : List Output :=
  log.map entry

end Output

/-- How a command ended. -/
structure Finished where
  code : Nat
  shown : List Output
  tree : FileTree
  deriving Inhabited

/-- Why a command did not come to an end. -/
inductive Failure where
  /-- The settings file has a shape that no settings have. -/
  | settings (cause : SettingsError)
  | run (cause : RunError)
  /-- The drivers or the statistics have no exported form. -/
  | unexportable
  /-- The stack is too small for what the command was given. -/
  | overflow
  /-- The tags of a text are refused, or the terminal cannot show it. -/
  | unshowable (o : Output)
  | file (cause : FileError)
  deriving Inhabited

end FuzzSynth.Command
