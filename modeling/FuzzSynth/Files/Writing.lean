/-
Making folders and writing files.

`makeFolder` makes a folder and, if it is missing, the folder around it first; a folder
that is there already is left as it is.  `write` puts a text at a path, in place of what
was there.
-/
import FuzzSynth.Files.Tree

namespace FuzzSynth.FileTree

/-! ## Folders -/

/-- Makes one folder, at a place where nothing is. -/
def addFolder (tree : FileTree) (base : Location) (path : FilePath) : Except FileFault FileTree :=
  (tree.locate base path).bind fun loc =>
    match tree.entry? loc with
    | some _ => .error .present
    | none => .ok { tree with folders := loc :: tree.folders }

/-- Makes one folder; it does not matter what kept it from being made if it is there. -/
def ensureFolder (tree : FileTree) (base : Location) (path : FilePath) : Except FileError FileTree :=
  match tree.addFolder base path with
  | .ok tree' => .ok tree'
  | .error fault =>
      if tree.leadsToFolder base path then .ok tree else .error ⟨fault, path.text⟩

/-- Makes the first of the given folders, and before it the next one if it is missing. -/
def makeFolders (tree : FileTree) (base : Location) : List FilePath → Except FileError FileTree
  | [] => .ok tree
  | path :: above =>
      match tree.addFolder base path with
      | .error .missing =>
          (tree.makeFolders base above).bind fun tree' => tree'.ensureFolder base path
      | _ => tree.ensureFolder base path

/-- Makes the folder of a normal path, and those around it. -/
def makeFolder (tree : FileTree) (base : Location) (path : FilePath) : Except FileError FileTree :=
  tree.makeFolders base path.withParents

/-! ## Files -/

/-- The tree with a text at a location. -/
def put (tree : FileTree) (loc : Location) (text : String) : FileTree :=
  { tree with files := (loc, text) :: tree.files.filter fun entry => entry.1 != loc }

/-- Writes the file that a path leads to; the folder it is in has to be there. -/
def write (tree : FileTree) (base : Location) (path : FilePath) (text : String) :
    Except FileError FileTree :=
  match tree.locate base path with
  | .error fault => .error ⟨fault, path.text⟩
  | .ok loc =>
      match tree.entry? loc with
      | some .folder => .error ⟨.isFolder, path.text⟩
      | _ => .ok (tree.put loc text)

/-- Writes the file of a normal path, and makes the folders around it. -/
def writeWithFolders (tree : FileTree) (base : Location) (path : FilePath) (text : String) :
    Except FileError FileTree :=
  (tree.makeFolder base path.parent).bind fun tree' => tree'.write base path text

end FuzzSynth.FileTree
