/-
Trees of text files.

A tree holds the files and folders that a command works on.  A location is the names
on the way from the root of the tree; a folder is there if something in the tree is
below it, or if it is listed itself.  Paths are followed one name after the other, and
reading says what is in the way if it fails.
-/
import FuzzSynth.Files.Fault

namespace FuzzSynth

/-- The names on the way from the root of a tree. -/
abbrev Location := List String

/-- What is at a location. -/
inductive Entry where
  | file (text : String)
  | folder
  deriving DecidableEq, Repr, Inhabited

/-- Files with their texts, and folders. -/
structure FileTree where
  files : List (Location × String)
  folders : List Location
  deriving DecidableEq, Repr, Inhabited

namespace FileTree

/-- The text of a file. -/
def text? (tree : FileTree) (loc : Location) : Option String :=
  (tree.files.find? fun entry => entry.1 == loc).map Prod.snd

/-- Whether there is a folder. -/
def hasFolder (tree : FileTree) (loc : Location) : Bool :=
  loc.isEmpty || tree.folders.any loc.isPrefixOf ||
    tree.files.any fun entry => loc.isPrefixOf entry.1 && loc != entry.1

/-- What is at a location. -/
def entry? (tree : FileTree) (loc : Location) : Option Entry :=
  match tree.text? loc with
  | some text => some (.file text)
  | none => if tree.hasFolder loc then some .folder else none

/-! ## Paths -/

/-- The location of a name in a folder. -/
def step (here : Location) (name : String) : Location :=
  if name = "." then here else if name = ".." then here.dropLast else here ++ [name]

/-- Goes from a folder to a name in it, which need not be there. -/
def enter (tree : FileTree) (here : Location) (name : String) : Except FileFault Location :=
  match tree.entry? here with
  | some .folder =>
      if FilePath.nameLimit < Text.nameSize name then .error .nameTooLong else .ok (step here name)
  | some (.file _) => .error .notFolder
  | none => .error .missing

/-- Where a path starts. -/
def startOf (base : Location) (path : FilePath) : Location :=
  if path.isAbsolute then [] else base

/-- The location that a path leads to, which need not be there. -/
def locate (tree : FileTree) (base : Location) (path : FilePath) : Except FileFault Location :=
  match path.fault? with
  | some fault => .error fault
  | none => path.steps.foldlM tree.enter (startOf base path)

/-- What a path leads to. -/
def lookUp (tree : FileTree) (base : Location) (path : FilePath) : Except FileFault Entry :=
  (tree.locate base path).bind fun loc =>
    match tree.entry? loc with
    | some entry => .ok entry
    | none => .error .missing

/-- Whether a path leads to something.  What makes no sense as a path leads nowhere, but
of one that is too long nothing can be said. -/
def holds (tree : FileTree) (base : Location) (path : FilePath) : Except FileError Bool :=
  match tree.lookUp base path with
  | .ok _ => .ok true
  | .error .nameTooLong => .error ⟨.nameTooLong, path.text⟩
  | .error _ => .ok false

/-- Whether a path leads to a folder. -/
def leadsToFolder (tree : FileTree) (base : Location) (path : FilePath) : Bool :=
  match tree.lookUp base path with
  | .ok .folder => true
  | _ => false

/-- The text of the file that a path leads to. -/
def read (tree : FileTree) (base : Location) (path : FilePath) : Except FileFault String :=
  match tree.lookUp base path with
  | .ok (.file text) => .ok text
  | .ok .folder => .error .isFolder
  | .error fault => .error fault

/-- A location and those above it, the innermost first. -/
def upward (loc : Location) : List Location :=
  ((List.range (loc.length + 1)).map loc.take).reverse

/-- The nearest file of a name, in a folder or above it. -/
def nearest (tree : FileTree) (name : String) (loc : Location) : Option (Location × String) :=
  (upward loc).findSome? fun folder =>
    (tree.text? (folder ++ [name])).map fun text => (folder ++ [name], text)

/-- A location as it is seen from another one. -/
def seenFrom (base loc : Location) : String :=
  if base.isPrefixOf loc then "/".intercalate (loc.drop base.length) else "/" ++ "/".intercalate loc

end FileTree

end FuzzSynth
