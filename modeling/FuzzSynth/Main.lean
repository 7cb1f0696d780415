/-
The command line.

Reads from the disk the files that a request may look at, runs the request on them,
shows what there is to show and writes what has changed.
-/
import FuzzSynth.Command.Run
import FuzzSynth.Files.Survey

namespace FuzzSynth.Main

open FuzzSynth.Command

/-- A location as an absolute path. -/
def absolute (loc : Location) : String :=
  Text.displayed ("/" ++ "/".intercalate loc)

/-- Adds what is at a location of the disk to a tree. -/
def observe (tree : FileTree) (loc : Location) : IO FileTree := do
  let path := (← IO.currentDir) / absolute loc
  if ← path.isDir then pure { tree with folders := loc :: tree.folders }
  else if ← path.pathExists then pure (tree.put loc (Text.kept (← IO.FS.readFile path)))
  else pure tree

/-- Writes the folders and files that a tree has and another one has not. -/
def store (before after : FileTree) : IO Unit := do
  for folder in after.folders do
    if !before.hasFolder folder then IO.FS.createDirAll (absolute folder)
  for (loc, text) in after.files do
    if before.text? loc != some text then IO.FS.writeFile (absolute loc) text

/-- The lines of a table. -/
def tableLines (t : Table) : List String :=
  t.title :: (t.columns :: t.rows).map fun cells => " | ".intercalate cells

/-- Shows a line. -/
def displayLine (s : String) : IO Unit :=
  IO.println (Text.displayed s)

/-- Shows something. -/
def display : Output → IO Unit
  | .entry e => displayLine (e.level.name ++ " " ++ e.text)
  | .table t => (tableLines t).forM displayLine
  | .line text _ => displayLine text

/-- What is said when a command did not come to an end. -/
def failureText : Failure → String
  | .settings _ => "The settings file has an unexpected shape."
  | .run (.window _) => "The scan window is too large."
  | .run .digits => "A cap has too many digits to be written."
  | .unexportable => "The run cannot be exported."
  | .overflow => "The stack is too small."
  | .unshowable _ => "Something cannot be shown."
  | .file e => e.message

/-- Carries out a request. -/
def perform (request : Request) : IO UInt32 := do
  let base := FilePath.namesOf (Text.kept (← IO.currentDir).toString)
  let tree ← (request.action.survey base).foldlM observe ⟨[], [base]⟩
  match request.run .standard tree base with
  | .error failure => do
      IO.eprintln (Text.displayed (failureText failure))
      pure 1
  | .ok finished => do
      store tree finished.tree
      finished.shown.forM display
      pure finished.code.toUInt32

/-- How the program is used. -/
def usage : String :=
  "usage: [--version] [-v] synthesize FACTS [--out FILE] [--config KEY=VALUE ...]\n" ++
  "       [--version] [-v] inspect FACTS [--drivers] [--config KEY=VALUE ...]"

end FuzzSynth.Main

/-- Reads the command line and carries out what it asks for. -/
def main (args : List String) : IO UInt32 := do
  match FuzzSynth.Command.Request.ofArguments (args.map FuzzSynth.Text.kept) with
  | .error .help => do
      IO.println FuzzSynth.Main.usage
      pure 0
  | .error .version => do
      IO.println FuzzSynth.Command.versionText
      pure 0
  | .error .misused => do
      IO.eprintln FuzzSynth.Main.usage
      pure 2
  | .ok request => FuzzSynth.Main.perform request
