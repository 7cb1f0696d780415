/-
Values of TOML.

Strings, numbers, flags, dates and times, arrays and tables in braces are read into
structured values.

`fuel` bounds the nesting of calls; twice the length of the text is always enough,
because each call but the first follows a character that has been read.
-/
import FuzzSynth.Toml.Moment
import FuzzSynth.Toml.Number
import FuzzSynth.Toml.Text

namespace FuzzSynth.Toml

open FuzzSynth.Text

/-! ## Scalars -/

/-- The value at the start of a text that holds no others, and the text after it. -/
def readScalar : List Char → Except Fault (Json × List Char)
  | 't' :: 'r' :: 'u' :: 'e' :: rest => .ok (.bool true, rest)
  | 'f' :: 'a' :: 'l' :: 's' :: 'e' :: rest => .ok (.bool false, rest)
  | cs =>
      match readMoment? cs with
      | some found => found
      | none => readNumber cs

/-! ## Comments -/

/-- The text after a comment, which ends with its line. -/
def skipComment : List Char → Except Fault (List Char)
  | '#' :: rest =>
      match (rest.takeWhile (· != '\n')).find? isControl with
      | some c => .error (.control c)
      | none => .ok (rest.dropWhile (· != '\n'))
  | cs => .ok cs

/-- The text after blanks, line breaks and comments. -/
def skipLines : (fuel : Nat) → List Char → Except Fault (List Char)
  | 0, cs => .ok cs
  | fuel + 1, cs =>
      match cs.dropWhile isSpace with
      | '#' :: rest => do skipLines fuel (← skipComment ('#' :: rest))
      | rest => .ok rest

/-! ## Tables -/

/-- Changes the table that a path leads to, making those on the way that are not there;
with `lists`, an array of tables stands for its last one. -/
def alterTable (lists : Bool) :
    (path : List String) → (List (String × Json) → Except Fault (List (String × Json))) →
      List (String × Json) → Except Fault (List (String × Json))
  | [], change, members => change members
  | key :: path, change, members =>
      match Json.member? key members with
      | none =>
          (alterTable lists path change []).map fun inner => Json.setMember key (.object inner) members
      | some (.object inner) =>
          (alterTable lists path change inner).map fun inner' =>
            Json.setMember key (.object inner') members
      | some (.array elements) =>
          match lists, elements.getLast? with
          | true, some (.object inner) =>
              (alterTable lists path change inner).map fun inner' =>
                Json.setMember key (.array (elements.dropLast ++ [.object inner'])) members
          | _, _ => .error .overwritten
      | some _ => .error .overwritten

/-- Adds a member, which is a fault if it is already there. -/
def addMember (fault : Fault) (key : String) (value : Json) (members : List (String × Json)) :
    Except Fault (List (String × Json)) :=
  if (Json.member? key members).isSome then .error fault else .ok (Json.setMember key value members)

/-- Whether one of the paths leads to a path or to something that holds it. -/
def covers (paths : List (List String)) (path : List String) : Bool :=
  paths.any fun p => p.isPrefixOf path

/-- Whether a value holds others, so that nothing may be added to it from outside. -/
def isClosed : Json → Bool
  | .array _ => true
  | .object _ => true
  | _ => false

/-- The last part of a key. -/
def lastKey (path : List String) : String := path.getLast?.getD ""

/-! ## Values -/

mutual

/-- The value at the start of a text. -/
def readValue : (fuel : Nat) → List Char → Except Fault (Json × List Char)
  | 0, _ => .error .noValue
  | fuel + 1, '[' :: rest => do
      let rest' ← skipLines (rest.length + 1) rest
      readElements fuel rest'
  | fuel + 1, '\x7b' :: rest =>
      match skipGaps rest with
      | '\x7d' :: rest' => .ok (.object [], rest')
      | rest' => readMembers fuel [] [] rest'
  | _ + 1, cs =>
      if cs.head? == some '"' || cs.head? == some '\'' then do
        let (text, rest) ← readString cs
        .ok (.string (String.ofList text), rest)
      else readScalar cs

/-- Elements up to the closing bracket. -/
def readElements : (fuel : Nat) → List Char → Except Fault (Json × List Char)
  | 0, _ => .error .openArray
  | _ + 1, ']' :: rest => .ok (.array [], rest)
  | fuel + 1, cs => do
      let (value, rest) ← readValue fuel cs
      match ← skipLines (rest.length + 1) rest with
      | ']' :: rest' => .ok (.array [value], rest')
      | ',' :: rest' =>
          let rest'' ← skipLines (rest'.length + 1) rest'
          match ← readElements fuel rest'' with
          | (.array values, after) => .ok (.array (value :: values), after)
          | (_, _) => .error .openArray
      | _ => .error .openArray

/-- Members up to the closing brace, added to those before; nothing is added below the
`closed` paths. -/
def readMembers : (fuel : Nat) → List (String × Json) → (closed : List (List String)) →
    List Char → Except Fault (Json × List Char)
  | 0, _, _, _ => .error .openTable
  | fuel + 1, members, closed, cs => do
      let ((path, value), rest) ← readPair fuel cs
      if covers closed path then .error (.complete path)
      else
        let key := lastKey path
        let members' ← alterTable false path.dropLast (addMember (.repeated key) key value) members
        match skipGaps rest with
        | '\x7d' :: rest' => .ok (.object members', rest')
        | ',' :: rest' =>
            readMembers fuel members' (if isClosed value then path :: closed else closed)
              (skipGaps rest')
        | _ => .error .openTable

/-- A key and its value. -/
def readPair : (fuel : Nat) → List Char → Except Fault ((List String × Json) × List Char)
  | 0, _ => .error .noKey
  | fuel + 1, cs => do
      let (path, rest) ← readKey (cs.length + 1) cs
      match rest with
      | '=' :: rest' =>
          let (value, after) ← readValue fuel (skipGaps rest')
          .ok ((path, value), after)
      | _ => .error .noEquals

end

end FuzzSynth.Toml
