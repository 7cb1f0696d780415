/-
What bounds imply.

A name is implied by a set when the table of supertraits leads to it from a name of the set
(`BoundSet.Implies`).  The worklist of `expand` keeps three things (`Expands`): it holds the
set it started from, it holds nothing that is not implied, and whatever it holds either waits
or has its supertraits in it.  With nothing left to look at that is the set of all implied
names (`mem_expand`), the least one that holds the set and the supertraits of what it holds
(`IsClosed.mem_of_implies`).
-/
import Mathlib.Logic.Relation
import FuzzSynth.Bound.Supertrait

namespace FuzzSynth
namespace BoundSet

variable {b c closed : BoundSet} {frontier : List String} {name : String}

/-- Whatever has the bounds `b` has this one too. -/
def Implies (b : BoundSet) (name : String) : Prop :=
  ∃ a ∈ b, Relation.ReflTransGen (fun n p => p ∈ supertraits n) a name

theorem Implies.of_mem (h : name ∈ b) : b.Implies name :=
  ⟨name, h, .refl⟩

theorem Implies.supertrait {parent : String} (h : b.Implies name)
    (hparent : parent ∈ supertraits name) : b.Implies parent := by
  obtain ⟨a, ha, hsteps⟩ := h
  exact ⟨a, ha, hsteps.tail hparent⟩

/-- The set holds the supertraits of its names. -/
def IsClosed (b : BoundSet) : Prop :=
  ∀ name ∈ b, ∀ parent ∈ supertraits name, parent ∈ b

/-- A closed set that holds the names of `b` holds all that they imply. -/
theorem IsClosed.mem_of_implies (hc : c.IsClosed) (hsub : ∀ n ∈ b, n ∈ c) (h : b.Implies name) :
    name ∈ c := by
  obtain ⟨a, ha, hsteps⟩ := h
  induction hsteps with
  | refl => exact hsub a ha
  | tail _ hparent ih => exact hc _ ih _ hparent

/-! ## The worklist -/

theorem mem_addParents_closed {parents : List String} :
    name ∈ (addParents parents frontier closed).2 ↔ name ∈ closed ∨ name ∈ parents := by
  induction parents generalizing frontier closed with
  | nil => simp [addParents]
  | cons parent rest ih =>
      unfold addParents
      split
      · next hold =>
          -- this one is held already
          have hold := contains_iff.mp hold
          rw [ih, List.mem_cons]
          constructor
          · exact fun h => h.imp_right .inr
          · rintro (h | rfl | h)
            · exact .inl h
            · exact .inl hold
            · exact .inr h
      · rw [ih, mem_insert, List.mem_cons, or_comm (a := name = parent), or_assoc]

/-- Only names that were not held before come to the frontier. -/
theorem mem_addParents_frontier {parents : List String} :
    name ∈ (addParents parents frontier closed).1 ↔
      name ∈ frontier ∨ (name ∈ parents ∧ name ∉ closed) := by
  induction parents generalizing frontier closed with
  | nil => simp [addParents]
  | cons parent rest ih =>
      unfold addParents
      split
      · next hold =>
          have hold := contains_iff.mp hold
          rw [ih, List.mem_cons]
          constructor
          · rintro (h | ⟨h, hnew⟩)
            · exact .inl h
            · exact .inr ⟨.inr h, hnew⟩
          · rintro (h | ⟨rfl | h, hnew⟩)
            · exact .inl h
            · exact absurd hold hnew
            · exact .inr ⟨h, hnew⟩
      · next hnew =>
          have hnew : parent ∉ closed := fun h => hnew (contains_iff.mpr h)
          rw [ih, List.mem_cons, List.mem_cons, mem_insert]
          by_cases heq : name = parent
          · subst heq
            simp [hnew]
          · simp [heq]

/-- What the worklist keeps on its way from `b`. -/
structure Expands (b : BoundSet) (frontier : List String) (closed : BoundSet) : Prop where
  base : ∀ n ∈ b, n ∈ closed
  implied : ∀ n ∈ closed, b.Implies n
  waiting : ∀ n ∈ frontier, n ∈ closed
  done : ∀ n ∈ closed, n ∈ frontier ∨ ∀ p ∈ supertraits n, p ∈ closed

/-- Looking at a name of the frontier keeps it. -/
theorem Expands.step {rest : List String} (h : Expands b (name :: rest) closed) :
    Expands b (addParents (supertraits name) rest closed).1
      (addParents (supertraits name) rest closed).2 := by
  have hname : name ∈ closed := h.waiting name List.mem_cons_self
  constructor
  case base => exact fun n hn => mem_addParents_closed.mpr (.inl (h.base n hn))
  case implied =>
    intro n hn
    rcases mem_addParents_closed.mp hn with hn | hn
    · exact h.implied n hn
    · exact (h.implied name hname).supertrait hn
  case waiting =>
    intro n hn
    rw [mem_addParents_closed]
    rcases mem_addParents_frontier.mp hn with hn | ⟨hn, -⟩
    · exact .inl (h.waiting n (List.mem_cons_of_mem name hn))
    · exact .inr hn
  case done =>
    intro n hn
    by_cases hold : n ∈ closed
    · rcases h.done n hold with hn | hn
      · rcases List.mem_cons.mp hn with rfl | hn
        -- this is the name that was looked at
        · exact .inr fun p hp => mem_addParents_closed.mpr (.inr hp)
        · exact .inl (mem_addParents_frontier.mpr (.inl hn))
      · exact .inr fun p hp => mem_addParents_closed.mpr (.inl (hn p hp))
    · have hparent := (mem_addParents_closed.mp hn).resolve_left hold
      exact .inl (mem_addParents_frontier.mpr (.inr ⟨hparent, hold⟩))

/-- The worklist ends with nothing left to look at. -/
theorem Expands.close (h : Expands b frontier closed) : Expands b [] (close frontier closed) := by
  fun_induction BoundSet.close frontier closed with
  | case1 => exact h
  | case2 closed name rest ih => exact ih h.step

/-- All names of the set wait at the start. -/
theorem expands_start (b : BoundSet) : Expands b b.names b where
  base _ hn := hn
  implied _ hn := .of_mem hn
  waiting _ hn := hn
  done _ hn := .inl hn

theorem expands_expand (b : BoundSet) : Expands b [] b.expand :=
  (expands_start b).close

/-! ## Expanded sets -/

theorem isClosed_expand (b : BoundSet) : b.expand.IsClosed :=
  fun n hn => ((expands_expand b).done n hn).resolve_left List.not_mem_nil

/-- A set with everything it implies holds exactly the names it implies. -/
theorem mem_expand : name ∈ b.expand ↔ b.Implies name :=
  ⟨(expands_expand b).implied name, (isClosed_expand b).mem_of_implies (expands_expand b).base⟩

/-- A closed set satisfies a demand and what the demand implies alike. -/
theorem IsClosed.isSatisfiedBy_eq {d : BoundSet} (hc : c.IsClosed) (hkept : ∀ n ∈ b, n ∈ d)
    (himplied : ∀ n ∈ d, b.Implies n) : d.isSatisfiedBy c = b.isSatisfiedBy c := by
  rw [Bool.eq_iff_iff, isSatisfiedBy_iff, isSatisfiedBy_iff]
  constructor
  · exact fun h n hn => h n (hkept n hn)
  · exact fun h n hn => hc.mem_of_implies h (himplied n hn)

end BoundSet
end FuzzSynth
