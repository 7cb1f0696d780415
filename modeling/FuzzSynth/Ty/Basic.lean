/-
Type expressions.

A type is a tree.  Each node has a former (reference, slice, array, tuple or a
path), says whether it stands for a type parameter, and has arguments.  Two types
are the same exactly when their trees are.

Nodes are as free as the notation for trees is: a tree may lack the inner type of
a reference, or carry arguments that a former has no use for.  `IsComplete` singles
out the trees in which every reference, slice and array has its inner type; those
are the ones that can be written down.
-/
import FuzzSynth.Sequence

namespace FuzzSynth

/-- What a node of a type builds from its arguments. -/
inductive Former where
  /-- A shared reference. -/
  | ref
  /-- A mutable reference. -/
  | refMut
  /-- A slice. -/
  | slice
  /-- An array; `tail` is what follows `[;` in its label, closing bracket included. -/
  | array (tail : String)
  /-- A tuple; with no arguments it is the unit type. -/
  | tuple
  /-- A named type. -/
  | path (name : String)
  deriving DecidableEq, Repr, Inhabited

namespace Former

/-- The label that names a former in a tree. -/
def label : Former → String
  | ref => "&"
  | refMut => "&mut"
  | slice => "[]"
  | array tail => "[;" ++ tail
  | tuple => "()"
  | path name => name

/-- The former that a label names. -/
def ofLabel (label : String) : Former :=
  if label = "&" then ref
  else if label = "&mut" then refMut
  else if label = "[]" then slice
  else if label = "()" then tuple
  else
    match label.toList with
    | '[' :: ';' :: tail => array (String.ofList tail)
    | _ => path label

/-- Whether a former is one of the two references. -/
def isReference : Former → Bool
  | ref | refMut => true
  | _ => false

/-- The array of a given length. -/
def ofLength (length : List Char) : Former :=
  array (String.ofList (length ++ [']']))

end Former

/-- A type expression. -/
inductive Ty where
  | node (former : Former) (isParam : Bool) (args : List Ty)
  deriving Inhabited, Repr

namespace Ty

/-! ## Shapes -/

/-- A type parameter. -/
@[match_pattern] abbrev param (name : String) : Ty := node (.path name) true []

/-- A named type with its arguments. -/
@[match_pattern] abbrev named (name : String) (args : List Ty) : Ty := node (.path name) false args

/-- A shared reference. -/
@[match_pattern] abbrev ref (inner : Ty) : Ty := node .ref false [inner]

/-- A mutable reference. -/
@[match_pattern] abbrev refMut (inner : Ty) : Ty := node .refMut false [inner]

/-- A slice. -/
@[match_pattern] abbrev slice (element : Ty) : Ty := node .slice false [element]

/-- A tuple. -/
@[match_pattern] abbrev tuple (members : List Ty) : Ty := node .tuple false members

/-- The unit type. -/
abbrev unit : Ty := tuple []

/-- The former of the outermost node. -/
def former : Ty → Former
  | node f _ _ => f

/-- Whether the outermost node stands for a type parameter. -/
def isParam : Ty → Bool
  | node _ p _ => p

/-- The arguments of the outermost node. -/
def args : Ty → List Ty
  | node _ _ as => as

/-- The label of the outermost node. -/
def label (t : Ty) : String :=
  t.former.label

/-- The number of arguments. -/
def arity (t : Ty) : Nat :=
  t.args.length

/-- Whether this is the empty tuple. -/
def isUnit (t : Ty) : Bool :=
  t.former == .tuple && t.args.isEmpty

/-- Whether this is a reference, shared or mutable. -/
def isReference (t : Ty) : Bool :=
  t.former.isReference

/-! ## Equality -/

mutual

/-- Structural equality. -/
def same : Ty → Ty → Bool
  | node f p as, node g q bs => f == g && p == q && sameAll as bs

/-- Structural equality of argument lists. -/
def sameAll : List Ty → List Ty → Bool
  | [], [] => true
  | a :: as, b :: bs => same a b && sameAll as bs
  | _, _ => false

end

mutual

theorem same_iff : (a b : Ty) → (same a b = true ↔ a = b)
  | node f p as, node g q bs => by
      simp [same, sameAll_iff as bs, and_assoc]

theorem sameAll_iff : (as bs : List Ty) → (sameAll as bs = true ↔ as = bs)
  | [], [] => by simp [sameAll]
  | [], _ :: _ => by simp [sameAll]
  | _ :: _, [] => by simp [sameAll]
  | a :: as, b :: bs => by simp [sameAll, same_iff a b, sameAll_iff as bs]

end

instance : DecidableEq Ty := fun a b => decidable_of_iff (same a b = true) (same_iff a b)

/-! ## Nodes -/

mutual

/-- Every node of a type, outermost first, arguments in order. -/
def nodes : Ty → List Ty
  | node f p as => node f p as :: nodesOfAll as

/-- Every node of each type of a list. -/
def nodesOfAll : List Ty → List Ty
  | [] => []
  | a :: as => nodes a ++ nodesOfAll as

end

/-- The names of the parameters in a type, each once, in order of first occurrence. -/
def slots (t : Ty) : List String :=
  Sequence.distinct ((t.nodes.filter isParam).map label)

mutual

/-- Whether a type still has a parameter to fill. -/
def isGeneric : Ty → Bool
  | node _ p as => p || anyGeneric as

/-- Whether one of the types still has a parameter to fill. -/
def anyGeneric : List Ty → Bool
  | [] => false
  | a :: as => isGeneric a || anyGeneric as

end

mutual

/-- Nesting depth; a type without arguments has depth one. -/
def depth : Ty → Nat
  | node _ _ as => 1 + maxDepth as

/-- The greatest depth among the types, zero if there are none. -/
def maxDepth : List Ty → Nat
  | [] => 0
  | a :: as => max (depth a) (maxDepth as)

end

mutual

/-- Whether every reference, slice and array that writing the type comes to has its
inner type.  A parameter is written by its name alone. -/
def isComplete : Ty → Bool
  | node _ true _ => true
  | node .ref false as => !as.isEmpty && allComplete as
  | node .refMut false as => !as.isEmpty && allComplete as
  | node .slice false as => !as.isEmpty && allComplete as
  | node (.array _) false as => !as.isEmpty && allComplete as
  | node .tuple false as => allComplete as
  | node (.path _) false as => allComplete as

/-- Whether each of the types is complete. -/
def allComplete : List Ty → Bool
  | [] => true
  | a :: as => isComplete a && allComplete as

end

/-! ## Substitution -/

mutual

/-- Replaces every parameter that has a replacement; the others stay. -/
def subst (fill : String → Option Ty) : Ty → Ty
  | node f true as => (fill f.label).getD (node f true as)
  | node f false as => node f false (substAll fill as)

/-- Replaces parameters in each of the types. -/
def substAll (fill : String → Option Ty) : List Ty → List Ty
  | [] => []
  | a :: as => subst fill a :: substAll fill as

end

/-! ## Small laws -/

theorem nodesOfAll_eq (as : List Ty) : nodesOfAll as = as.flatMap nodes := by
  induction as with
  | nil => rfl
  | cons a as ih => simp [nodesOfAll, ih]

theorem substAll_eq (fill : String → Option Ty) (as : List Ty) :
    substAll fill as = as.map (subst fill) := by
  induction as with
  | nil => rfl
  | cons a as ih => simp [substAll, ih]

theorem anyGeneric_eq (as : List Ty) : anyGeneric as = as.any isGeneric := by
  induction as with
  | nil => rfl
  | cons a as ih => simp [anyGeneric, ih]

theorem allComplete_eq (as : List Ty) : allComplete as = as.all isComplete := by
  induction as with
  | nil => rfl
  | cons a as ih => simp [allComplete, ih]

end Ty

end FuzzSynth
