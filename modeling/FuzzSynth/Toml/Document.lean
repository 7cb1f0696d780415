/-
TOML documents.

A document is lines: headers `[path]` and `[[path]]`, which say where the following
members belong, and members `path = value`.  Nothing may be defined twice.  A table
counts as defined when its header has been read, or when the section in which dotted
keys made it has ended; arrays and tables in braces are complete as they stand.
-/
import FuzzSynth.Toml.Value

namespace FuzzSynth.Toml

/-- What has been read so far. -/
structure Draft where
  /-- The members of the whole document. -/
  members : List (String × Json)
  /-- Where the following members belong. -/
  here : List String
  /-- The tables that are defined. -/
  defined : List (List String)
  /-- The values that nothing may be added to, at any depth. -/
  closed : List (List String)
  /-- The tables that dotted keys of the current section have gone through. -/
  opened : List (List String)
  deriving Inhabited

namespace Draft

/-- Nothing has been read. -/
def empty : Draft := ⟨[], [], [], [], []⟩

/-- Ends a section. -/
def endSection (d : Draft) : Draft :=
  { d with defined := d.opened ++ d.defined, opened := [] }

/-- Starts the section of a table. -/
def startTable (path : List String) (d : Draft) : Except Fault Draft :=
  if d.defined.contains path || covers d.closed path then .error (.declaredTwice path)
  else
    (alterTable true path .ok d.members).map fun members =>
      { d with members, defined := path :: d.defined, here := path }

/-- Adds an empty table to an array of tables. -/
def growArray (key : String) (members : List (String × Json)) :
    Except Fault (List (String × Json)) :=
  match Json.member? key members with
  | none => .ok (Json.setMember key (.array [.object []]) members)
  | some (.array elements) =>
      .ok (Json.setMember key (.array (elements ++ [.object []])) members)
  | some _ => .error .overwritten

/-- Starts the section of a new table in an array; what was defined in the table before
it does not count any more. -/
def startElement (path : List String) (d : Draft) : Except Fault Draft :=
  if covers d.closed path then .error (.complete path)
  else
    (alterTable true path.dropLast (growArray (lastKey path)) d.members).map fun members =>
      { d with
        members
        defined := path :: d.defined.filter fun p => !path.isPrefixOf p
        closed := d.closed.filter fun p => !path.isPrefixOf p
        here := path }

/-- The tables that a key goes through. -/
def throughPaths (start key : List String) : List (List String) :=
  ((List.range (key.length - 1)).map fun i => start ++ key.take (i + 1))

/-- Adds a member. -/
def add (path : List String) (value : Json) (d : Draft) : Except Fault Draft :=
  let through := throughPaths d.here path
  let parent := d.here ++ path.dropLast
  match through.find? d.defined.contains with
  | some p => .error (.redefined p)
  | none =>
      if covers d.closed parent then .error (.complete parent)
      else
        (alterTable true parent (addMember .overwritten (lastKey path) value) d.members).map
          fun members =>
            { d with
              members
              opened := through ++ d.opened
              closed := if isClosed value then (d.here ++ path) :: d.closed else d.closed }

end Draft

/-- The path of a header, and the text after it. -/
def headerPath (cs : List Char) : Except Fault (List String × List Char) :=
  readKey (cs.length + 1) (skipGaps cs)

/-- Reads one statement; a line may also be empty. -/
def readStatement (d : Draft) : List Char → Except Fault (Draft × List Char)
  | '[' :: '[' :: rest => do
      let (path, rest') ← headerPath rest
      let d' ← d.endSection.startElement path
      match rest' with
      | ']' :: ']' :: after => .ok (d', after)
      | _ => .error .openElement
  | '[' :: rest => do
      let (path, rest') ← headerPath rest
      let d' ← d.endSection.startTable path
      match rest' with
      | ']' :: after => .ok (d', after)
      | _ => .error .openHeader
  | [] => .ok (d, [])
  | c :: rest =>
      if c == '#' || c == '\n' then .ok (d, c :: rest)
      else if !startsKey c then .error .noStatement
      else do
        let ((path, value), after) ← readPair (2 * rest.length + 4) (c :: rest)
        let d' ← d.add path value
        .ok (d', after)

/-- Reads lines to the end of the text. -/
def readLines : (fuel : Nat) → Draft → List Char → Except Fault Draft
  | 0, _, _ => .error .notEnded
  | fuel + 1, d, cs => do
      let (d', rest) ← readStatement d (skipGaps cs)
      match ← skipComment (skipGaps rest) with
      | [] => .ok d'
      | '\n' :: rest' => readLines fuel d' rest'
      | _ => .error .notEnded

/-- Line breaks of two characters as one. -/
def unifyBreaks : List Char → List Char
  | '\r' :: '\n' :: rest => '\n' :: unifyBreaks rest
  | c :: rest => c :: unifyBreaks rest
  | [] => []

/-- The members of a document. -/
def read (text : String) : Except Fault (List (String × Json)) :=
  let cs := unifyBreaks text.toList
  (readLines (cs.length + 1) .empty cs).map Draft.members

end FuzzSynth.Toml
