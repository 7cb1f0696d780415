/-
Names of styles.

A style is named by the words for its attributes and colors, in any order; several
names may mean the same style.  `normalName` gives each style one name: the attributes
in a fixed order and under their full names, then the color, the background and the link.
A text that names no style is its own name, in lower case.
-/
import FuzzSynth.Style.Color
import FuzzSynth.Text.Blank

namespace FuzzSynth.Style

open FuzzSynth.Text

/-! ## Attributes -/

/-- What a style can do to a text besides coloring it. -/
inductive Attribute where
  | bold
  | dim
  | italic
  | underline
  | blink
  | blink2
  | reverse
  | conceal
  | strike
  | underline2
  | frame
  | encircle
  | overline
  deriving DecidableEq, Repr, Inhabited

namespace Attribute

/-- The attributes in order. -/
def all : List Attribute :=
  [bold, dim, italic, underline, blink, blink2, reverse, conceal, strike, underline2, frame,
   encircle, overline]

/-- The full name of an attribute. -/
def name : Attribute → String
  | bold => "bold"
  | dim => "dim"
  | italic => "italic"
  | underline => "underline"
  | blink => "blink"
  | blink2 => "blink2"
  | reverse => "reverse"
  | conceal => "conceal"
  | strike => "strike"
  | underline2 => "underline2"
  | frame => "frame"
  | encircle => "encircle"
  | overline => "overline"

/-- The short name of an attribute. -/
def shortName? : Attribute → Option String
  | bold => some "b"
  | dim => some "d"
  | italic => some "i"
  | underline => some "u"
  | reverse => some "r"
  | conceal => some "c"
  | strike => some "s"
  | underline2 => some "uu"
  | overline => some "o"
  | _ => none

/-- The attribute of a full or short name. -/
def ofName? (s : String) : Option Attribute :=
  all.find? fun a => a.name == s || a.shortName? == some s

end Attribute

/-! ## Styles -/

/-- A style. -/
structure TextStyle where
  /-- The attributes that are switched on or off. -/
  attributes : List (Attribute × Bool) := []
  color : Option String := none
  background : Option String := none
  link : Option String := none
  deriving DecidableEq, Repr, Inhabited

namespace TextStyle

/-- Switches an attribute on or off. -/
def switch (a : Attribute) (on : Bool) (s : TextStyle) : TextStyle :=
  { s with attributes := (a, on) :: s.attributes.filter fun entry => entry.1 != a }

/-- The words for an attribute that is switched on or off. -/
def attributeWords (s : TextStyle) (a : Attribute) : List String :=
  match s.attributes.find? fun entry => entry.1 == a with
  | some (_, true) => [a.name]
  | some (_, false) => ["not", a.name]
  | none => []

/-- The words of the normal name. -/
def words (s : TextStyle) : List String :=
  Attribute.all.flatMap s.attributeWords ++ s.color.toList ++
    (s.background.toList.flatMap fun c => ["on", c]) ++ (s.link.toList.flatMap fun l => ["link", l])

/-- The normal name. -/
def name (s : TextStyle) : String :=
  if s.words.isEmpty then "none" else " ".intercalate s.words

/-- The style that words stand for, on top of another one. -/
def ofWords : List String → TextStyle → Except StyleFault TextStyle
  | [], s => .ok s
  | word :: rest, s =>
      let small := String.ofList (lower word.toList)
      if small = "on" then
        match rest with
        | [] => .error .unknown
        | next :: rest' => do ofWords rest' { s with background := some (← colorOf next) }
      else if small = "not" then
        match rest with
        | [] => .error .unknown
        | next :: rest' =>
            match Attribute.ofName? next with
            | some a => ofWords rest' (s.switch a false)
            | none => .error .unknown
      else if small = "link" then
        match rest with
        | [] => .error .unknown
        | next :: rest' => ofWords rest' { s with link := some next }
      else
        match Attribute.ofName? small with
        | some a => ofWords rest (s.switch a true)
        | none => do ofWords rest { s with color := some (← colorOf word) }

end TextStyle

/-! ## Names -/

/-- The texts between blanks. -/
def wordsOf (cs : List Char) : List String :=
  ((cs.splitBy fun a b => isBlank a == isBlank b).filter fun w => !w.all isBlank).map String.ofList

/-- The one name of what a text names. -/
def normalName (cs : List Char) : Except StyleFault String :=
  if trim cs = "none".toList then .ok "none"
  else
    match TextStyle.ofWords (wordsOf cs) {} with
    | .ok s => .ok s.name
    | .error .unknown => .ok (String.ofList (lower (trim cs)))
    | .error fault => .error fault

end FuzzSynth.Style
