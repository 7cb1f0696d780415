/-
What a command runs on.

How styled text is read, which settings and facts are valid, how deep the stack is and what
the terminal can show is not up to the command.  A `Host` stands for all of that.
-/
import FuzzSynth.Command.Output
import FuzzSynth.Style.Tags

namespace FuzzSynth.Command

/-- What a command depends on besides the files. -/
structure Host where
  markup : Markup
  validator : Validator
  /-- Whether the stack is deep enough to read and to check what a text holds. -/
  canRead : String → Bool
  /-- Whether the stack is deep enough for a run over the facts. -/
  canRun : Config → Document → Bool
  /-- Whether the terminal can show a table or a line. -/
  canPrint : Output → Bool

namespace Host

/-- A host that has no limits. -/
def standard : Host where
  markup := .standard
  validator := .standard
  canRead _ := true
  canRun _ _ := true
  canPrint _ := true

variable (host : Host)

/-- Whether the stack is deep enough for the settings of a folder. -/
def canReadSettings (tree : FileTree) (folder : Location) : Bool :=
  (tree.nearest Config.settingsFile folder).all fun found => host.canRead found.2

/-- Whether the stack is deep enough for the facts in a file. -/
def canReadFacts (tree : FileTree) (base : Location) (path : FilePath) : Bool :=
  (tree.read base path).toOption.all host.canRead

/-- Whether the terminal takes something.  A text that it cannot show is only skipped in an
entry of the record. -/
def takes : Output → Bool
  | .entry _ => true
  | o => host.canPrint o

/-- Whether something can be shown. -/
def shows (o : Output) : Bool :=
  (o.styledTexts.all fun text => !host.markup.isFaulty text) && host.takes o

/-- Shows everything, in order. -/
def display (shown : List Output) : Except Failure (List Output) :=
  match shown.find? fun o => !host.shows o with
  | some o => .error (.unshowable o)
  | none => .ok shown

end Host

end FuzzSynth.Command
