/-
Bound sets.

A bound set is a finite set of trait and lifetime names, kept as a strictly
increasing list, so that two sets are the same exactly when their lists are.
`BoundSet.of` is the set that a list of written bounds asks for: a relaxed bound
(`?Sized`) and a named lifetime ask for nothing, `'static` is a real demand.
-/
import FuzzSynth.Text.Lifetime
import FuzzSynth.Text.Names

namespace FuzzSynth

open FuzzSynth.Text (insertName mem_insertName pairwise_insertName)

/-- A finite set of trait and lifetime names. -/
structure BoundSet where
  /-- The names, in increasing order. -/
  names : List String
  sorted : names.Pairwise (· < ·)
  deriving DecidableEq, Repr

namespace BoundSet

/-- No bounds at all. -/
def empty : BoundSet := ⟨[], List.Pairwise.nil⟩

instance : Inhabited BoundSet := ⟨empty⟩

/-- Adds one name. -/
def insert (b : BoundSet) (name : String) : BoundSet :=
  ⟨insertName name b.names, pairwise_insertName b.sorted⟩

/-- The set of the given names. -/
def ofNames (names : List String) : BoundSet :=
  names.foldr (fun name b => b.insert name) empty

/-- The names of both sets. -/
def union (a b : BoundSet) : BoundSet :=
  a.names.foldr (fun name c => c.insert name) b

/-- Whether a name is in the set. -/
def contains (b : BoundSet) (name : String) : Bool :=
  b.names.contains name

/-- Whether all the names that are required are offered. -/
def isSatisfiedBy (required offered : BoundSet) : Bool :=
  required.names.all offered.contains

/-- The number of names. -/
def size (b : BoundSet) : Nat :=
  b.names.length

/-- The names in order, joined by `+`. -/
def render (b : BoundSet) : String :=
  " + ".intercalate b.names

/-- Whether a trimmed bound is a demand on the type: not nothing, not relaxed, and not
a lifetime other than `'static`. -/
def isDemand (bound : String) : Bool :=
  match bound.toList with
  | [] => false
  | '?' :: _ => false
  | '\'' :: _ => bound == "'static"
  | _ => true

/-- The set that written bounds ask for. -/
def of (written : List String) : BoundSet :=
  ofNames ((written.map Text.trimmed).filter isDemand)

/-- What is demanded: a name that is there, and neither relaxed nor a lifetime other than
`'static`. -/
theorem isDemand_iff {bound : String} : isDemand bound = true ↔
    bound ≠ "" ∧ bound.toList.head? ≠ some '?' ∧
      (bound.toList.head? = some '\'' → bound = "'static") := by
  have hempty : bound ≠ "" ↔ bound.toList ≠ [] := not_congr String.toList_eq_nil_iff.symm
  rw [isDemand, hempty]
  cases bound.toList with
  | nil => simp
  | cons c rest => split <;> simp_all

/-! ## Membership -/

instance : Membership String BoundSet := ⟨fun b name => name ∈ b.names⟩

theorem mem_def {b : BoundSet} {name : String} : name ∈ b ↔ name ∈ b.names := Iff.rfl

@[simp] theorem not_mem_empty (name : String) : ¬ name ∈ empty := by
  simp [mem_def, empty]

@[simp] theorem mem_insert {b : BoundSet} {a name : String} : a ∈ b.insert name ↔ a = name ∨ a ∈ b := by
  simp [mem_def, insert]

@[simp] theorem contains_iff {b : BoundSet} {name : String} : b.contains name = true ↔ name ∈ b := by
  simp [contains, mem_def]

@[simp] theorem mem_ofNames {a : String} {names : List String} : a ∈ ofNames names ↔ a ∈ names := by
  induction names with
  | nil => simp [ofNames]
  | cons n rest ih =>
      have : ofNames (n :: rest) = (ofNames rest).insert n := rfl
      simp [this, ih]

/-- What is kept of written bounds are their names without the blanks around them, and what is
dropped are those that demand nothing. -/
theorem mem_of {written : List String} {name : String} :
    name ∈ of written ↔ (∃ bound ∈ written, Text.trimmed bound = name) ∧ name ≠ "" ∧
      name.toList.head? ≠ some '?' ∧ (name.toList.head? = some '\'' → name = "'static") := by
  rw [of, mem_ofNames, List.mem_filter, List.mem_map, isDemand_iff]

@[simp] theorem mem_union {a b : BoundSet} {name : String} : name ∈ a.union b ↔ name ∈ a ∨ name ∈ b := by
  have key : ∀ names : List String,
      name ∈ names.foldr (fun name c => c.insert name) b ↔ name ∈ names ∨ name ∈ b := by
    intro names
    induction names with
    | nil => simp
    | cons n rest ih => simp [ih, or_assoc]
  exact key a.names

theorem isSatisfiedBy_iff {required offered : BoundSet} :
    required.isSatisfiedBy offered = true ↔ ∀ name ∈ required, name ∈ offered := by
  simp [isSatisfiedBy, mem_def, contains]

end BoundSet

end FuzzSynth
