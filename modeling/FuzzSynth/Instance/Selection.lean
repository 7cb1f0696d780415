/-
Selecting instances.

Out of many instances of one function a few are kept.  Each round takes the
instance that puts in the most types not put in before; among those the one with
the most new pairs of parameter and type; among those the first.
-/
import FuzzSynth.Instance.Substitution

namespace FuzzSynth

/-- What the instances selected so far have covered. -/
structure Coverage where
  types : List Ty
  pairs : List (Nat × Ty)
  deriving Repr, Inhabited

namespace Coverage

/-- Nothing is covered yet. -/
def none : Coverage := ⟨[], []⟩

/-- Adds what an instance covers. -/
def add (covered : Coverage) (m : Instance) : Coverage :=
  ⟨m.substitution.types ++ covered.types, m.substitution.coverage ++ covered.pairs⟩

/-- How many types and how many pairs an instance would add. -/
def gain (covered : Coverage) (m : Instance) : Nat × Nat :=
  (((Sequence.distinct m.substitution.types).filter fun t => !covered.types.contains t).length,
   ((Sequence.distinct m.substitution.coverage).filter fun p => !covered.pairs.contains p).length)

end Coverage

/-- Whether the first gain is greater: more types, or as many and more pairs. -/
def gainExceeds (a b : Nat × Nat) : Bool :=
  b.1 < a.1 || (a.1 == b.1 && b.2 < a.2)

/-- The first item with the greatest gain, and the others in their order. -/
def takeBest {α : Type} (gain : α → Nat × Nat) : List α → Option (α × List α)
  | [] => none
  | a :: rest =>
      match takeBest gain rest with
      | none => some (a, [])
      | some (best, others) =>
          if gainExceeds (gain best) (gain a) then some (best, a :: others) else some (a, rest)

theorem takeBest_eq_none_iff {α : Type} {gain : α → Nat × Nat} {items : List α} :
    takeBest gain items = none ↔ items = [] := by
  cases items with
  | nil => simp [takeBest]
  | cons a rest =>
      simp only [takeBest, List.cons_ne_nil, iff_false]
      split
      · simp
      · split <;> simp

theorem takeBest_perm {α : Type} {gain : α → Nat × Nat} {items others : List α} {best : α}
    (h : takeBest gain items = some (best, others)) : items.Perm (best :: others) := by
  induction items generalizing best others with
  | nil => simp [takeBest] at h
  | cons a rest ih =>
      simp only [takeBest] at h
      split at h
      · next hn =>
          obtain ⟨rfl, rfl⟩ : _ ∧ _ := by simpa using h
          rw [takeBest_eq_none_iff.mp hn]
      · next b os hs =>
          split at h
          · obtain ⟨rfl, rfl⟩ : _ ∧ _ := by simpa using h
            exact ((ih hs).cons a).trans (List.Perm.swap _ _ _)
          · obtain ⟨rfl, rfl⟩ : _ ∧ _ := by simpa using h
            exact List.Perm.refl _

/-- Takes the best remaining item until `rounds` are taken or none is left; `api` is the
instance that an item stands for. -/
def selectRounds {α : Type} (api : α → Instance) : (rounds : Nat) → Coverage → List α → List α
  | 0, _, _ => []
  | rounds + 1, covered, remaining =>
      match takeBest (fun a => covered.gain (api a)) remaining with
      | none => []
      | some (best, others) => best :: selectRounds api rounds (covered.add (api best)) others

/-- The items kept under a cap, in the order in which they were selected. -/
def selectItems {α : Type} (api : α → Instance) (items : List α) (cap : Int) : List α :=
  selectRounds api (min cap.toNat items.length) .none items

/-- The instances kept under a cap, in the order in which they were selected. -/
def selectDiverse (instances : List Instance) (cap : Int) : List Instance :=
  selectItems id instances cap

end FuzzSynth
