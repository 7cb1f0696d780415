/-
Reading types.

`Ty.parse params text` reads Rust notation.  Names listed in `params` become type
parameters, lifetimes are dropped, and blanks may stand around every token.  The
text is cut at its own outer brackets, so each part that is read in turn is
shorter than the whole; that is what ends the recursion.
-/
import FuzzSynth.Text.Brackets
import FuzzSynth.Text.Digit
import FuzzSynth.Text.Lifetime
import FuzzSynth.Text.PathName
import FuzzSynth.Text.Word
import FuzzSynth.Ty.Basic

namespace FuzzSynth.Ty

open FuzzSynth.Text

/-- Why a text is not a type. -/
inductive ParseError where
  /-- Nothing but blanks. -/
  | empty
  /-- The brackets inside this text do not balance. -/
  | unbalanced (inside : List Char)
  /-- A slice or array without its closing bracket. -/
  | openSlice (text : List Char)
  /-- Brackets that hold neither one type nor a type and a length. -/
  | badArray (text : List Char)
  /-- A tuple without its closing bracket. -/
  | openTuple (text : List Char)
  /-- Not a path, with or without type arguments. -/
  | badPath (text : List Char)
  /-- A type parameter with type arguments. -/
  | appliedParam (name : List Char)
  deriving DecidableEq, Repr

/-- What is said about a text that is not a type. -/
def ParseError.message : ParseError → String
  | empty => "Empty type expression"
  | unbalanced inside => "Unbalanced brackets in '" ++ String.ofList inside ++ "'"
  | openSlice text => "Unterminated slice type '" ++ String.ofList text ++ "'"
  | badArray text => "Unsupported array type '" ++ String.ofList text ++ "'"
  | openTuple text => "Unterminated tuple type '" ++ String.ofList text ++ "'"
  | badPath text => "Unsupported type expression '" ++ String.ofList text ++ "'"
  | appliedParam name => "Type parameter '" ++ String.ofList name ++ "' cannot take arguments"

/-! ## Pieces of a text -/

/-- The text after the keyword `mut`, if it starts with that word. -/
def afterMut? : List Char → Option (List Char)
  | 'm' :: 'u' :: 't' :: rest => if endsWord rest then some rest else none
  | _ => none

/-- The text before its last character, if that is `close`. -/
def before? (close : Char) (cs : List Char) : Option (List Char) :=
  if cs.getLast? = some close then some cs.dropLast else none

/-- The parts of a text between commas outside brackets. -/
def commaParts (inside : List Char) : Except ParseError (List (List Char)) :=
  match splitOutside (· == ',') inside with
  | some parts => .ok parts
  | none => .error (.unbalanced inside)

/-- The parts of a text between semicolons outside brackets. -/
def semicolonParts (inside : List Char) : Except ParseError (List (List Char)) :=
  match splitOutside (· == ';') inside with
  | some parts => .ok parts
  | none => .error (.unbalanced inside)

/-- What follows a path name: nothing, or type arguments between `<` and `>`. -/
inductive PathEnd where
  | bare
  | arguments (inside : List Char)
  | junk

/-- Reads what follows a path name. -/
def pathEnd (rest : List Char) : PathEnd :=
  match trimLeft rest with
  | [] => .bare
  | '<' :: tail =>
      match before? '>' tail with
      | some inside => .arguments inside
      | none => .junk
  | _ => .junk

/-! ## Lengths -/

theorem length_lt_of_afterMut? {cs rest : List Char} (h : afterMut? cs = some rest) :
    rest.length < cs.length := by
  unfold afterMut? at h
  split at h
  · split at h
    · obtain rfl : _ = rest := by simpa using h
      simp only [List.length_cons]
      omega
    · simp at h
  · simp at h

theorem length_le_of_before? {close : Char} {cs inside : List Char}
    (h : before? close cs = some inside) : inside.length ≤ cs.length := by
  unfold before? at h
  split at h
  · obtain rfl : cs.dropLast = inside := by simpa using h
    simp
  · simp at h

theorem length_le_of_mem_commaParts {inside : List Char} {parts : List (List Char)}
    (h : commaParts inside = .ok parts) : ∀ part ∈ parts, part.length ≤ inside.length := by
  unfold commaParts at h
  split at h
  · next found =>
      obtain rfl : _ = parts := by simpa using h
      exact length_le_of_mem_splitOutside found
  · simp at h

theorem length_le_of_mem_semicolonParts {inside : List Char} {parts : List (List Char)}
    (h : semicolonParts inside = .ok parts) : ∀ part ∈ parts, part.length ≤ inside.length := by
  unfold semicolonParts at h
  split at h
  · next found =>
      obtain rfl : _ = parts := by simpa using h
      exact length_le_of_mem_splitOutside found
  · simp at h

theorem length_le_of_pathEnd {rest inside : List Char} (h : pathEnd rest = .arguments inside) :
    inside.length ≤ rest.length := by
  have hle := length_trimLeft_le rest
  unfold pathEnd at h
  split at h
  · simp at h
  · next tail heq =>
      split at h
      · next found =>
          obtain rfl : _ = inside := by simpa using h
          have := length_le_of_before? found
          rw [heq] at hle
          simp only [List.length_cons] at hle
          omega
      · simp at h
  · simp at h

/-! ## The reader -/

/-- Reads a type; `params` are the names of the type parameters in scope. -/
def parseChars (params : List String) (text : List Char) : Except ParseError Ty :=
  match _trimmed : trim text with
  | [] => .error .empty
  | '&' :: rest =>
      match _mut : afterMut? (dropLifetime (trimLeft rest)) with
      | some inner => (parseChars params inner).map refMut
      | none => (parseChars params (dropLifetime (trimLeft rest))).map ref
  | '[' :: rest =>
      match _closed : before? ']' rest with
      | none => .error (.openSlice text)
      | some inside =>
          match _cut : semicolonParts inside with
          | .error e => .error e
          | .ok [element] => (parseChars params element).map slice
          | .ok [element, length] =>
              if isNumeral length then
                (parseChars params element).map fun t => node (.ofLength length) false [t]
              else .error (.badArray text)
          | .ok _ => .error (.badArray text)
  | '(' :: rest =>
      match _closed : before? ')' rest with
      | none => .error (.openTuple text)
      | some inside =>
          match _cut : commaParts inside with
          | .error e => .error e
          | .ok parts => (parts.attach.mapM fun part => parseChars params part.1).map tuple
  | c :: rest =>
      match _named : pathName? (c :: rest) with
      | none => .error (.badPath text)
      | some (name, rest') =>
          match _end : pathEnd rest' with
          | .junk => .error (.badPath text)
          | .bare => .ok (node (.path (String.ofList name)) (params.contains (String.ofList name)) [])
          | .arguments inside =>
              match _cut : commaParts inside with
              | .error e => .error e
              | .ok parts =>
                  match (parts.filter fun part => !isLifetime part).attach.mapM
                      fun part => parseChars params part.1 with
                  | .error e => .error e
                  | .ok args =>
                      if params.contains (String.ofList name) then
                        if args.isEmpty then .ok (param (String.ofList name))
                        else .error (.appliedParam name)
                      else .ok (named (String.ofList name) args)
termination_by text.length
decreasing_by
  all_goals have _shorter := length_trim_le text
  all_goals simp only [_trimmed, List.length_cons] at _shorter
  · have h₁ := length_lt_of_afterMut? _mut
    have h₂ := length_dropLifetime_le (trimLeft rest)
    have h₃ := length_trimLeft_le rest
    omega
  · have h₂ := length_dropLifetime_le (trimLeft rest)
    have h₃ := length_trimLeft_le rest
    omega
  · have h₁ := length_le_of_before? _closed
    have h₂ := length_le_of_mem_semicolonParts _cut element (by simp)
    omega
  · have h₁ := length_le_of_before? _closed
    have h₂ := length_le_of_mem_semicolonParts _cut element (by simp)
    omega
  · have h₁ := length_le_of_before? _closed
    have h₂ := length_le_of_mem_commaParts _cut part.1 part.2
    omega
  · have h₁ := length_lt_of_pathName? _named
    have h₂ := length_le_of_pathEnd _end
    have h₃ := length_le_of_mem_commaParts _cut part.1 (List.mem_filter.mp part.2).1
    simp only [List.length_cons] at h₁
    omega

/-- Reads a type; `params` are the names of the type parameters in scope. -/
def parse (params : List String) (text : String) : Except ParseError Ty :=
  parseChars params text.toList

end FuzzSynth.Ty
