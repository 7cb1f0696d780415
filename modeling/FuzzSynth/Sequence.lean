/-
Lists with an order that matters.

`total` adds numbers up.  `distinct` keeps the first occurrence of each element.
`cut` keeps the elements that a signed cap allows: a cap below zero leaves out that
many at the end.  `rankSort` orders by a rank and keeps the given order among equal
ranks.
-/
namespace FuzzSynth.Sequence

/-! ## Sums -/

/-- The sum of numbers. -/
def total (ns : List Nat) : Nat :=
  ns.foldr (fun n rest => n + rest) 0

@[simp] theorem total_nil : total [] = 0 := rfl

@[simp] theorem total_cons (n : Nat) (ns : List Nat) : total (n :: ns) = n + total ns := rfl

/-! ## First occurrences -/

/-- The first occurrence of each element, in order. -/
def distinct {α : Type} [DecidableEq α] : List α → List α
  | [] => []
  | a :: rest => a :: (distinct rest).filter fun b => b ≠ a

@[simp] theorem mem_distinct {α : Type} [DecidableEq α] {a : α} {xs : List α} :
    a ∈ distinct xs ↔ a ∈ xs := by
  induction xs with
  | nil => simp [distinct]
  | cons b rest ih => by_cases h : a = b <;> simp [distinct, ih, h]

theorem nodup_distinct {α : Type} [DecidableEq α] (xs : List α) : (distinct xs).Nodup := by
  induction xs with
  | nil => simp [distinct]
  | cons b rest ih =>
      simp only [distinct, List.nodup_cons]
      exact ⟨by simp, ih.filter _⟩

/-! ## Signed caps -/

/-- The elements allowed by a cap; a cap of `-n` leaves out the last `n`. -/
def cut {α : Type} (cap : Int) (xs : List α) : List α :=
  if 0 ≤ cap then xs.take cap.toNat else xs.take (xs.length - (-cap).toNat)

theorem cut_sublist {α : Type} (cap : Int) (xs : List α) : (cut cap xs).Sublist xs := by
  unfold cut
  split <;> exact List.take_sublist _ _

/-! ## Stable order by rank -/

/-- Inserts a ranked element in front of the first one that ranks above it. -/
def insertRanked {α : Type} (rank : Nat) (a : α) : List (Nat × α) → List (Nat × α)
  | [] => [(rank, a)]
  | (r, b) :: rest =>
      if rank ≤ r then (rank, a) :: (r, b) :: rest else (r, b) :: insertRanked rank a rest

/-- The elements by increasing rank; equal ranks keep their order. -/
def rankSort {α : Type} (rank : α → Nat) (xs : List α) : List α :=
  (xs.foldr (fun a sorted => insertRanked (rank a) a sorted) []).map Prod.snd

theorem insertRanked_perm {α : Type} (rank : Nat) (a : α) (xs : List (Nat × α)) :
    (insertRanked rank a xs).Perm ((rank, a) :: xs) := by
  induction xs with
  | nil => exact List.Perm.refl _
  | cons b rest ih =>
      obtain ⟨r, b⟩ := b
      simp only [insertRanked]
      split
      · exact List.Perm.refl _
      · exact (List.Perm.cons _ ih).trans (List.Perm.swap _ _ _)

/-- Ordering by rank loses nothing. -/
theorem rankSort_perm {α : Type} (rank : α → Nat) (xs : List α) : (rankSort rank xs).Perm xs := by
  have key : ∀ ys : List α,
      ((ys.foldr (fun a sorted => insertRanked (rank a) a sorted) []).map Prod.snd).Perm ys := by
    intro ys
    induction ys with
    | nil => exact List.Perm.refl _
    | cons a rest ih =>
        exact ((insertRanked_perm _ _ _).map Prod.snd).trans (List.Perm.cons a ih)
  exact key xs

@[simp] theorem mem_rankSort {α : Type} {rank : α → Nat} {xs : List α} {a : α} :
    a ∈ rankSort rank xs ↔ a ∈ xs :=
  (rankSort_perm rank xs).mem_iff

end FuzzSynth.Sequence
