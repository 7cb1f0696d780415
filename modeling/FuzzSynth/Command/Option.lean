/-
Options of a command line.

An argument is an option if it begins with `-`.  The long options may be shortened to
any beginning that no other one shares, and take an attached argument after `=`; short
options without arguments may be packed into one word, with or without `=` after the
first.  A negative number and a text
with a blank are no options, and neither is anything after `--`.
-/
import FuzzSynth.Text.Numeral

namespace FuzzSynth.Command

open FuzzSynth.Text

/-- How many arguments an option takes. -/
inductive Arity where
  | none
  | one
  | many
  deriving DecidableEq, Repr, Inhabited

/-- An option under one of its names. -/
structure Switch (α : Type) where
  name : List Char
  arity : Arity
  meaning : α
  deriving Inhabited

/-- How an argument is understood. -/
inductive Word (α : Type) where
  /-- No option. -/
  | plain
  /-- The first `--`. -/
  | separator
  /-- An option, with the text that is attached to it. -/
  | option (switch : Switch α) (attached : Option (List Char))
  /-- An option that is not known. -/
  | unknown
  /-- The beginning of several options. -/
  | ambiguous
  deriving Inhabited

variable {α : Type}

/-! ## Understanding one argument -/

/-- The option of a name. -/
def named? (table : List (Switch α)) (name : List Char) : Option (Switch α) :=
  table.find? fun s => s.name == name

/-- The options that a long name may be short for. -/
def abbreviated (table : List (Switch α)) (cs : List Char) : List (Word α) :=
  let (start, attached) := splitAt? (· == '=') cs
  (table.filter fun s => start.isPrefixOf s.name).map fun s => .option s attached

/-- The short option that a word of packed ones begins with. -/
def packed (table : List (Switch α)) (cs : List Char) : List (Word α) :=
  (table.filter fun s => s.name == cs.take 2).map fun s => .option s (some (cs.drop 2))

/-- The text without a line break at its end. -/
def dropLastBreak (cs : List Char) : List Char :=
  if cs.getLast? = some '\n' then cs.dropLast else cs

/-- Whether a text is a negative number; a line break may end it. -/
def isNegativeNumber (cs : List Char) : Bool :=
  match cs with
  | '-' :: rest =>
      match splitAt? (· == '.') (dropLastBreak rest) with
      | (whole, none) => !whole.isEmpty && whole.all decimalRanges.holds
      | (whole, some fraction) =>
          whole.all decimalRanges.holds && !fraction.isEmpty && fraction.all decimalRanges.holds
  | _ => false

/-- The option with an argument attached after `=`. -/
def attached? (table : List (Switch α)) (cs : List Char) : Option (Word α) :=
  match splitAt? (· == '=') cs with
  | (name, some argument) => (named? table name).map fun s => .option s (some argument)
  | (_, none) => none

/-- What a word stands for that is no option under its full name. -/
def guess (table : List (Switch α)) (cs : List Char) : Word α :=
  match if cs.take 2 == ['-', '-'] then abbreviated table cs else packed table cs with
  | [word] => word
  | [] => if isNegativeNumber cs || cs.contains ' ' then .plain else .unknown
  | _ => .ambiguous

/-- How an argument is understood on its own. -/
def understand (table : List (Switch α)) (cs : List Char) : Word α :=
  if cs.head? != some '-' then .plain
  else
    match named? table cs with
    | some s => .option s none
    | none =>
        if cs.length == 1 then .plain
        else
          match attached? table cs with
          | some word => word
          | none => guess table cs

/-! ## Understanding a line -/

/-- How the arguments of a line are understood. -/
def understandAll (table : List (Switch α)) : List String → List (String × Word α)
  | [] => []
  | arg :: rest =>
      if arg == "--" then (arg, .separator) :: rest.map fun a => (a, .plain)
      else (arg, understand table arg.toList) :: understandAll table rest

/-- Whether an argument is the beginning of several options. -/
def Word.isAmbiguous : Word α → Bool
  | ambiguous => true
  | _ => false

/-- Whether an argument is no option. -/
def Word.isPlain : Word α → Bool
  | plain => true
  | _ => false

/-! ## Taking one word apart -/

/-- Whether the name of an option is a sign and a letter. -/
def Switch.isShort (s : Switch α) : Bool :=
  s.name.length == 2 && s.name.getLast? != some '-'

/-- The options that an option with an attached text stands for, each with the argument
that it takes from the text.  An option that takes an argument takes the whole text; a
short one that takes none is followed by the short option of the first letter.  There is
no meaning if some of the text is left to an option that has no use for it. -/
def unpackText (table : List (Switch α)) (s : Switch α) :
    List Char → Option (List (Switch α × Option (List Char)))
  | [] => if s.arity = .none then none else some [(s, some [])]
  | c :: rest =>
      if s.arity ≠ .none then some [(s, some (c :: rest))]
      else if !s.isShort then none
      else
        match named? table ['-', c] with
        | none => none
        | some next =>
            if rest.isEmpty then some [(s, none), (next, none)]
            else (unpackText table next rest).map ((s, none) :: ·)

/-- The options that a word stands for. -/
def unpack (table : List (Switch α)) (s : Switch α) :
    Option (List Char) → Option (List (Switch α × Option (List Char)))
  | none => some [(s, none)]
  | some text => unpackText table s text

end FuzzSynth.Command
