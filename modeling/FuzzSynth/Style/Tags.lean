/-
Tags in styled text.

A tag in brackets opens a style, one that begins with a slash closes the innermost style
of its name, and a slash alone closes the innermost style of all.  A tag after an odd
number of backslashes is no tag.  `tagFault?` says what is wrong with the tags of a text:
a tag may close only what is open, and when it closes a handler, the parameters of that
have to be literals.  `Markup.standard` is styled text by these rules.
-/
import FuzzSynth.Markup
import FuzzSynth.Style.Handler
import FuzzSynth.Style.Name
import FuzzSynth.Text.Markup
import FuzzSynth.Text.Points

namespace FuzzSynth.Style

open FuzzSynth.Text

/-! ## Finding tags -/

/-- A tag, and how many characters stand before its bracket. -/
structure Tag where
  before : Nat
  /-- The text between the brackets. -/
  content : List Char
  deriving DecidableEq, Repr, Inhabited

/-- The tags of a text after `before` characters, of which `slashes` backslashes are the
last; the next `skipped` characters belong to a tag already found. -/
def tagsAfter : (before slashes skipped : Nat) → List Char → List Tag
  | _, _, _, [] => []
  | before, _, skipped + 1, _ :: rest => tagsAfter (before + 1) 0 skipped rest
  | before, slashes, 0, c :: rest =>
      if c == '\\' then tagsAfter (before + 1) (slashes + 1) 0 rest
      else
        match if c == '[' then tagLength? rest else none with
        | none => tagsAfter (before + 1) 0 0 rest
        | some n =>
            let others := tagsAfter (before + 1) 0 n rest
            if slashes % 2 = 1 then others else ⟨before, rest.take (n - 1)⟩ :: others

/-- The tags of a text. -/
def tags (cs : List Char) : List Tag :=
  tagsAfter 0 0 0 cs

/-- The name of a tag, which is all but what follows `=`. -/
def Tag.name (t : Tag) : List Char :=
  t.content.takeWhile (· != '=')

/-- The parameters of a tag, which follow the first `=`. -/
def Tag.parameters (t : Tag) : List Char :=
  (t.content.dropWhile (· != '=')).drop 1

/-- A style or a handler that is open. -/
structure OpenTag where
  name : String
  parameters : List Char
  deriving DecidableEq, Repr, Inhabited

/-! ## Closing tags -/

/-- What is wrong with a text as styled text. -/
inductive TagFault where
  /-- There is nothing that this tag closes. -/
  | unmatched (tag : Tag)
  /-- A tag that closes anything has nothing to close. -/
  | nothingOpen (tag : Tag)
  /-- A tag cannot be read. -/
  | unreadable (fault : StyleFault)
  /-- A handler is closed that cannot be given its parameters. -/
  | handler (fault : HandlerFault)
  deriving DecidableEq, Repr, Inhabited

/-- What is open after an open tag is closed that had others around it. -/
def OpenTag.close (tag : OpenTag) (outer : List OpenTag) : Except TagFault (List OpenTag) :=
  match if tag.name.startsWith "@" then handlerFault? tag.parameters else none with
  | some fault => .error (.handler fault)
  | none => .ok outer

/-- What is open after a tag, the innermost first. -/
def Tag.apply (t : Tag) (opened : List OpenTag) : Except TagFault (List OpenTag) :=
  match t.name with
  | '/' :: rest =>
      let closed := trim rest
      if closed.isEmpty then
        match opened with
        | [] => .error (.nothingOpen t)
        | tag :: outer => tag.close outer
      else do
        let name ← (normalName closed).mapError .unreadable
        match opened.find? (·.name == name) with
        | some tag => tag.close (opened.eraseP (·.name == name))
        | none => .error (.unmatched t)
  | name => (normalName name).mapError .unreadable |>.map (⟨·, t.parameters⟩ :: opened)

/-- What is wrong with the tags of a text. -/
def tagFault? (s : String) : Option TagFault :=
  match (tags s.toList).foldlM (fun opened t => t.apply opened) [] with
  | .ok _ => none
  | .error fault => some fault

theorem tagsAfter_eq_nil {cs : List Char} (h : '[' ∉ cs) (before slashes : Nat) :
    tagsAfter before slashes 0 cs = [] := by
  induction cs generalizing before slashes with
  | nil => simp [tagsAfter]
  | cons c rest ih =>
      have hc : c ≠ '[' := fun e => h (e ▸ List.mem_cons_self)
      have ih := ih fun m => h (List.mem_cons_of_mem _ m)
      simp [tagsAfter, hc, ih]

/-- The position of a tag in a text, in code points. -/
def Tag.position (t : Tag) (s : String) : String :=
  String.ofList (decimalDigits (toPoints (s.toList.take t.before)).length)

/-- What is said about the tags of a text. -/
def TagFault.message (s : String) : TagFault → String
  | unmatched t =>
      "closing tag '[" ++ String.ofList t.content ++ "]' at position " ++ t.position s ++
        " doesn't match any open tag"
  | nothingOpen t => "closing tag '[/]' at position " ++ t.position s ++ " has nothing to close"
  | handler fault => fault.message
  | unreadable (.tooManyDigits count) => tooManyDigitsText count
  | unreadable _ => "invalid literal for int() with base 10: ''"

end FuzzSynth.Style

namespace FuzzSynth

/-- Styled text whose tags are read as above. -/
def Markup.standard : Markup where
  escape := Text.escape
  isFaulty s := (Style.tagFault? s).isSome

end FuzzSynth
