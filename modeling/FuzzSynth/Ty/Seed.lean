/-
Types that raw bytes can fill.

A fuzzing engine fills some inputs by decoding bytes: primitives, `&str`,
references to such types and to slices of them, tuples of such types held by
value, and `Option` of one.  `isFuzzable` decides which types these are, and
`seedLayout` says how many bytes the decoder takes: references and `Option` do not
change the layout of what they hold, `&str` and slices vary in length.
-/
import FuzzSynth.Ty.Printer

namespace FuzzSynth

/-- The byte width of each primitive type. -/
def primitiveSizes : List (String × Nat) :=
  [("bool", 1), ("i8", 1), ("u8", 1), ("i16", 2), ("u16", 2), ("i32", 4), ("u32", 4), ("char", 4),
   ("f32", 4), ("i64", 8), ("u64", 8), ("f64", 8), ("isize", 8), ("usize", 8), ("i128", 16),
   ("u128", 16)]

/-- The paths under which `Option` is known. -/
def optionPaths : List String :=
  ["Option", "core::option::Option", "std::option::Option"]

/-- How many bytes one seed takes. -/
structure SeedLayout where
  /-- The fewest bytes that decode to a value. -/
  minLength : Nat
  /-- Whether every value takes exactly `minLength` bytes. -/
  fixedLength : Bool
  /-- The bytes taken by the parts of fixed width. -/
  fixedPart : Nat
  /-- The number of parts of varying length. -/
  dynamicParams : Nat
  deriving DecidableEq, Repr, Inhabited

namespace SeedLayout

/-- A value of fixed width. -/
def fixed (size : Nat) : SeedLayout := ⟨size, true, size, 0⟩

/-- A value of varying length that takes at least `least` bytes. -/
def varying (least : Nat) : SeedLayout := ⟨least, false, 0, 1⟩

/-- A value made of two parts, one after the other. -/
def append (a b : SeedLayout) : SeedLayout :=
  ⟨a.minLength + b.minLength, a.fixedLength && b.fixedLength, a.fixedPart + b.fixedPart,
   a.dynamicParams + b.dynamicParams⟩

end SeedLayout

namespace Ty

/-- The type `str`. -/
abbrev str : Ty := named "str" []

/-- The byte width of a primitive type. -/
def primitiveSize? : Ty → Option Nat
  | node (.path name) false [] => primitiveSizes.lookup name
  | _ => none

/-- Whether this is a primitive type. -/
def isPrimitive (t : Ty) : Bool :=
  t.primitiveSize?.isSome

/-- Whether this is `Option` of one type. -/
def isOption : Ty → Bool
  | node (.path name) _ [_] => optionPaths.contains name
  | _ => false

/-- Whether a tuple holds this type by value: it is neither a reference nor an `Option`. -/
def isByValue (t : Ty) : Bool :=
  !t.isReference && !t.isOption

mutual

/-- Whether bytes decode to a value of this type, which has no parameters. -/
def decodes : Ty → Bool
  | node (.path name) _ [] => (primitiveSizes.lookup name).isSome
  | node (.path name) _ [inner] => optionPaths.contains name && decodes inner
  | node .ref _ (node .slice _ (element :: _) :: _) => decodes element
  | node .ref _ (inner :: _) => inner == str || decodes inner
  | node .refMut _ (node .slice _ (element :: _) :: _) => decodes element
  | node .refMut _ (inner :: _) => decodes inner
  | node .tuple _ (member :: members) =>
      decodes member && member.isByValue && decodesAll members
  | _ => false

/-- Whether bytes decode to a value of each of these types, all held by value. -/
def decodesAll : List Ty → Bool
  | [] => true
  | member :: members => decodes member && member.isByValue && decodesAll members

end

/-- Whether a seed of raw bytes can fill an input of this type. -/
def isFuzzable (t : Ty) : Bool :=
  !t.isGeneric && t.decodes

mutual

/-- The layout of a decodable type, which has no parameters. -/
def layout? : Ty → Option SeedLayout
  | node (.path name) _ [] => (primitiveSizes.lookup name).map .fixed
  | node (.path name) _ [inner] => if optionPaths.contains name then layout? inner else none
  | node .ref _ (node .slice _ (element :: _) :: _) =>
      (layout? element).map fun l => .varying l.minLength
  | node .ref _ (inner :: _) => if inner == str then some (.varying 1) else layout? inner
  | node .refMut _ (node .slice _ (element :: _) :: _) =>
      (layout? element).map fun l => .varying l.minLength
  | node .refMut _ (inner :: _) => layout? inner
  | node .tuple _ (member :: members) => layoutAll? (member :: members)
  | _ => none

/-- The layout of types held by value, one after the other. -/
def layoutAll? : List Ty → Option SeedLayout
  | [] => some (.fixed 0)
  | member :: members =>
      if member.isByValue then
        match layout? member, layoutAll? members with
        | some a, some b => some (a.append b)
        | _, _ => none
      else none

end

/-- The layout of a seed of this type, if a seed can fill it. -/
def seedLayout (t : Ty) : Option SeedLayout :=
  if t.isGeneric then none else t.layout?

/-! ## Types with gaps -/

mutual

/-- Whether deciding if bytes decode to this type comes to an inner type that is not there. -/
def meetsGap : Ty → Bool
  | node (.path name) _ [inner] => optionPaths.contains name && meetsGap inner
  | node .ref _ [] => true
  | node .ref _ (node .slice _ [] :: _) => true
  | node .ref _ (node .slice _ (element :: _) :: _) => meetsGap element
  | node .ref _ (inner :: _) => meetsGap inner
  | node .refMut _ [] => true
  | node .refMut _ (node .slice _ [] :: _) => true
  | node .refMut _ (node .slice _ (element :: _) :: _) => meetsGap element
  | node .refMut _ (inner :: _) => meetsGap inner
  | node .tuple _ members => meetsGapAmong members
  | _ => false

/-- Whether the members are asked about up to one with a gap. -/
def meetsGapAmong : List Ty → Bool
  | [] => false
  | member :: members =>
      meetsGap member || (decodes member && member.isByValue && meetsGapAmong members)

end

/-- The layout of a seed of a type that may lack inner types. -/
def seedLayout? (t : Ty) : Except Gap (Option SeedLayout) :=
  if !t.isGeneric && t.meetsGap then .error .inLooking else .ok t.seedLayout

end Ty

end FuzzSynth
