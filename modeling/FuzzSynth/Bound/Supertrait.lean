/-
Implied supertraits.

A type that implements a trait also implements the supertraits of that trait, so
offering `Ord` offers `Eq`, `PartialOrd` and `PartialEq` too.  `BoundSet.expand`
adds everything implied by a set: it keeps the names whose supertraits are still
to be looked at, and every name enters that frontier at most once.
-/
import FuzzSynth.Bound.Basic

namespace FuzzSynth

/-- The direct supertraits of the traits that have any. -/
def supertraitTable : List (String × List String) :=
  [("Copy", ["Clone"]),
   ("Eq", ["PartialEq"]),
   ("PartialOrd", ["PartialEq"]),
   ("Ord", ["Eq", "PartialOrd"]),
   ("Error", ["Debug", "Display"]),
   ("DoubleEndedIterator", ["Iterator"]),
   ("ExactSizeIterator", ["Iterator"]),
   ("FusedIterator", ["Iterator"]),
   ("BufRead", ["Read"])]

/-- The direct supertraits of a trait. -/
def supertraits (name : String) : List String :=
  (supertraitTable.lookup name).getD []

/-- Every name that is a supertrait of some trait. -/
def impliedNames : List String :=
  supertraitTable.flatMap Prod.snd

theorem mem_impliedNames {name parent : String} (h : parent ∈ supertraits name) :
    parent ∈ impliedNames := by
  have lookup_mem : ∀ table : List (String × List String),
      parent ∈ (table.lookup name).getD [] → parent ∈ table.flatMap Prod.snd := by
    intro table
    induction table with
    | nil => simp
    | cons row rest ih =>
        obtain ⟨key, parents⟩ := row
        simp only [List.lookup_cons, List.flatMap_cons, List.mem_append]
        split
        · exact fun h => .inl (by simpa using h)
        · exact fun h => .inr (ih h)
  exact lookup_mem supertraitTable h

namespace BoundSet

/-- How many implied names a set does not hold yet. -/
def missing (b : BoundSet) : Nat :=
  (impliedNames.filter fun name => !b.contains name).length

/-- Adds supertraits that are new, both to the set and to the frontier. -/
def addParents : List String → List String → BoundSet → List String × BoundSet
  | [], frontier, closed => (frontier, closed)
  | parent :: rest, frontier, closed =>
      if closed.contains parent then addParents rest frontier closed
      else addParents rest (parent :: frontier) (closed.insert parent)

theorem missing_insert_lt {b : BoundSet} {parent : String} (h : parent ∈ impliedNames)
    (new : b.contains parent = false) : (b.insert parent).missing < b.missing := by
  have key : ∀ names : List String, parent ∈ names →
      (names.filter fun name => !(b.insert parent).contains name).length <
        (names.filter fun name => !b.contains name).length := by
    have mono : ∀ names : List String,
        (names.filter fun name => !(b.insert parent).contains name).length ≤
          (names.filter fun name => !b.contains name).length := by
      intro names
      simp only [← List.countP_eq_length_filter]
      refine List.countP_mono_left fun a _ ha => ?_
      simp only [Bool.not_eq_true', ← Bool.not_eq_true, contains_iff, mem_insert] at ha ⊢
      exact fun hb => ha (.inr hb)
    intro names
    induction names with
    | nil => simp
    | cons n rest ih =>
        intro hmem
        by_cases hn : n = parent
        · subst hn
          have hin : (b.insert n).contains n = true := by simp
          simp only [List.filter_cons, hin, new]
          have := mono rest
          simp
          omega
        · have hmem' : parent ∈ rest := by
            rcases List.mem_cons.mp hmem with h | h
            · exact absurd h.symm hn
            · exact h
          have heq : (b.insert parent).contains n = b.contains n := by
            rw [Bool.eq_iff_iff]
            simp [hn]
          simp only [List.filter_cons, heq]
          split
          · simp only [List.length_cons]
            have := ih hmem'
            omega
          · exact ih hmem'
  exact key impliedNames h

theorem addParents_measure {parents frontier : List String} {closed : BoundSet}
    (h : ∀ parent ∈ parents, parent ∈ impliedNames) :
    (addParents parents frontier closed).2.missing + (addParents parents frontier closed).1.length
      ≤ closed.missing + frontier.length := by
  induction parents generalizing frontier closed with
  | nil => simp [addParents]
  | cons parent rest ih =>
      have hrest : ∀ p ∈ rest, p ∈ impliedNames := fun p hp => h p (by simp [hp])
      simp only [addParents]
      split
      · exact ih hrest
      · next hnew =>
          have hlt : (closed.insert parent).missing < closed.missing :=
            missing_insert_lt (h parent (by simp)) (Bool.not_eq_true _ ▸ hnew)
          have := @ih (parent :: frontier) (closed.insert parent) hrest
          simp only [List.length_cons] at this
          omega

/-- Adds what the names of the frontier imply. -/
def close (frontier : List String) (closed : BoundSet) : BoundSet :=
  match frontier with
  | [] => closed
  | name :: rest =>
      close (addParents (supertraits name) rest closed).1 (addParents (supertraits name) rest closed).2
termination_by closed.missing + frontier.length
decreasing_by
  have := @addParents_measure (supertraits name) rest closed (fun _ h => mem_impliedNames h)
  simp only [List.length_cons]
  omega

/-- A set with everything it implies. -/
def expand (b : BoundSet) : BoundSet :=
  close b.names b

end BoundSet

end FuzzSynth
