/-
Orders and caps of lists.

To order by rank is to sort by insertion (`rankSort_eq_insertionSort`), so the ranks increase along
the list, and the elements of one rank are left in their order (`filter_rankSort`).  Both together
say which of two elements comes first (`pair_sublist_rankSort_iff`).
-/
import Mathlib.Algebra.Order.BigOperators.Group.List
import Mathlib.Algebra.Order.Ring.Nat
import Mathlib.Data.List.Forall2
import Mathlib.Data.List.Pairwise
import Mathlib.Data.List.Sort
import FuzzSynth.Sequence

namespace FuzzSynth.Sequence

variable {α β : Type} {rank : α → Nat} {a b : α} {xs : List α}

/-! ## Related lists -/

/-- What is related from left to right has, for each element on the right, one on the left. -/
theorem exists_left_of_forall₂ {R : α → β → Prop} {xs : List α} {ys : List β}
    (h : List.Forall₂ R xs ys) {y : β} (hy : y ∈ ys) : ∃ x ∈ xs, R x y := by
  obtain ⟨i, hi, rfl⟩ := List.getElem_of_mem hy
  have hlt : i < xs.length := h.length_eq ▸ hi
  exact ⟨xs[i], List.getElem_mem hlt, h.get hlt hi⟩

/-- Where all values are different, one value comes from one element. -/
theorem eq_of_nodup_filterMap {f : α → Option β} (h : (xs.filterMap f).Nodup) {y : β}
    (ha : a ∈ xs) (hb : b ∈ xs) (hfa : f a = some y) (hfb : f b = some y) : a = b := by
  have hpairwise := List.pairwise_filterMap.mp h
  have hsymm : Std.Symm fun a b => ∀ y, f a = some y → ∀ z, f b = some z → y ≠ z :=
    ⟨fun _ _ hne z hz y hy => (hne y hy z hz).symm⟩
  by_contra hne
  exact hpairwise.forall ha hb hne y hfa y hfb rfl

/-! ## Counts -/

theorem total_eq_sum (ns : List Nat) : total ns = ns.sum := rfl

/-- Sums of which one is nowhere above the other are the same only if they are so everywhere. -/
theorem sum_map_eq_iff {f g : α → Nat} (h : ∀ a ∈ xs, f a ≤ g a) :
    (xs.map f).sum = (xs.map g).sum ↔ ∀ a ∈ xs, f a = g a := by
  induction xs with
  | nil => simp
  | cons a rest ih =>
      obtain ⟨ha, hrest⟩ := List.forall_mem_cons.mp h
      have hle : (rest.map f).sum ≤ (rest.map g).sum := List.sum_le_sum hrest
      rw [List.map_cons, List.map_cons, List.sum_cons, List.sum_cons, List.forall_mem_cons,
        ← ih hrest]
      omega

/-- Of different keys one is the given one, if it is among them. -/
theorem sum_map_ite_eq [DecidableEq β] {keys : List β} (hkeys : keys.Nodup) {key : β}
    (h : key ∈ keys) : (keys.map fun k => if key = k then 1 else 0).sum = 1 := by
  have hcount : ∀ keys : List β,
      (keys.map fun k => if key = k then 1 else 0).sum = keys.count key := by
    intro keys
    induction keys with
    | nil => rfl
    | cons k rest ih =>
        rw [List.map_cons, List.sum_cons, ih, List.count_cons, Nat.add_comm]
        by_cases hk : key = k
        · simp [hk]
        · simp [hk, Ne.symm hk]
  rw [hcount, List.count_eq_one_of_mem hkeys h]

/-- How many elements have each of the keys. -/
def tally [DecidableEq β] (keys : List β) (key : α → β) (xs : List α) : List Nat :=
  keys.map fun k => xs.countP fun a => key a = k

/-- Different keys of which each element has one count all elements once. -/
theorem sum_tally [DecidableEq β] {key : α → β} {keys : List β} (hkeys : keys.Nodup)
    (h : ∀ a ∈ xs, key a ∈ keys) : (tally keys key xs).sum = xs.length := by
  unfold tally
  induction xs with
  | nil => simp
  | cons a rest ih =>
      obtain ⟨ha, hrest⟩ := List.forall_mem_cons.mp h
      simp only [List.countP_cons, decide_eq_true_eq, List.sum_map_add]
      rw [ih hrest, sum_map_ite_eq hkeys ha, List.length_cons]

/-- A test that a weaker one includes counts as many elements only if they agree. -/
theorem countP_eq_countP_iff {p q : α → Bool} (h : ∀ a, p a = true → q a = true) :
    xs.countP p = xs.countP q ↔ ∀ a ∈ xs, q a = true → p a = true := by
  constructor
  · intro hcount a ha hq
    rw [List.countP_eq_length_filter, List.countP_eq_length_filter] at hcount
    have hfilter := (List.monotone_filter_right xs h).eq_of_length hcount
    have hmem : a ∈ xs.filter p := hfilter ▸ List.mem_filter.mpr ⟨ha, hq⟩
    exact (List.mem_filter.mp hmem).2
  · intro hback
    exact List.countP_congr fun a ha => ⟨h a, hback a ha⟩

/-! ## Sorting by insertion -/

theorem insertRanked_eq_orderedInsert (rank : α → Nat) (a : α) (xs : List α) :
    insertRanked (rank a) a (xs.map fun b => (rank b, b)) =
      (xs.orderedInsert (fun b c => rank b ≤ rank c) a).map fun b => (rank b, b) := by
  induction xs with
  | nil => rfl
  | cons b rest ih =>
      rw [List.map_cons, insertRanked, List.orderedInsert_cons, ih]
      split <;> rfl

/-- Ordering by rank is sorting by insertion. -/
theorem rankSort_eq_insertionSort (rank : α → Nat) (xs : List α) :
    rankSort rank xs = xs.insertionSort fun a b => rank a ≤ rank b := by
  have hranked : xs.foldr (fun a sorted => insertRanked (rank a) a sorted) [] =
      (xs.insertionSort fun a b => rank a ≤ rank b).map fun a => (rank a, a) := by
    induction xs with
    | nil => rfl
    | cons a rest ih =>
        rw [List.foldr_cons, ih, insertRanked_eq_orderedInsert, List.insertionSort_cons]
  rw [rankSort, hranked, List.map_map]
  exact List.map_id _

/-- An order by rank moves along where the ranks do. -/
theorem rankSort_map (f : α → β) (rank : β → Nat) (xs : List α) :
    rankSort rank (xs.map f) = (rankSort (fun a => rank (f a)) xs).map f := by
  rw [rankSort_eq_insertionSort, rankSort_eq_insertionSort]
  exact (List.map_insertionSort _ _ f xs fun _ _ _ _ => Iff.rfl).symm

/-! ## What comes first -/

theorem pairwise_rankSort (rank : α → Nat) (xs : List α) :
    (rankSort rank xs).Pairwise fun a b => rank a ≤ rank b := by
  have htotal : Std.Total fun a b : α => rank a ≤ rank b := ⟨fun a b => Nat.le_total _ _⟩
  have htrans : IsTrans α fun a b => rank a ≤ rank b := ⟨fun _ _ _ => Nat.le_trans⟩
  rw [rankSort_eq_insertionSort]
  exact List.pairwise_insertionSort _ xs

theorem rank_le_of_pair_sublist (h : [a, b].Sublist (rankSort rank xs)) : rank a ≤ rank b :=
  (List.pairwise_cons.mp ((pairwise_rankSort rank xs).sublist h)).1 b (List.mem_singleton_self b)

/-- The elements of one rank are left in their order. -/
theorem filter_rankSort (rank : α → Nat) (r : Nat) (xs : List α) :
    (rankSort rank xs).filter (fun a => rank a = r) = xs.filter fun a => rank a = r := by
  have hpairwise : (xs.filter fun a => rank a = r).Pairwise fun a b => rank a ≤ rank b := by
    refine List.pairwise_of_forall_mem_list fun a ha b hb => ?_
    have ha : rank a = r := by simpa using (List.mem_filter.mp ha).2
    have hb : rank b = r := by simpa using (List.mem_filter.mp hb).2
    omega
  -- they are a part of the sorted list, and as many as there
  have hsublist : (xs.filter fun a => rank a = r).Sublist (rankSort rank xs) := by
    rw [rankSort_eq_insertionSort]
    exact List.sublist_insertionSort hpairwise List.filter_sublist
  have hfilter := hsublist.filter fun a => decide (rank a = r)
  simp only [List.filter_filter, Bool.and_self] at hfilter
  exact (hfilter.eq_of_length ((rankSort_perm rank xs).filter _).length_eq.symm).symm

/-- Different elements of a list stand in one order or in the other. -/
theorem pair_sublist_or (ha : a ∈ xs) (hb : b ∈ xs) (hne : a ≠ b) :
    [a, b].Sublist xs ∨ [b, a].Sublist xs := by
  obtain ⟨front, back, rfl⟩ := List.append_of_mem ha
  rcases List.mem_append.mp hb with hb | hb
  · have hlast : [a].Sublist (a :: back) := List.singleton_sublist.mpr List.mem_cons_self
    exact .inr ((List.singleton_sublist.mpr hb).append hlast)
  · have hback : b ∈ back := (List.mem_cons.mp hb).resolve_left hne.symm
    have htail : [a, b].Sublist (a :: back) := (List.singleton_sublist.mpr hback).cons_cons a
    exact .inl (htail.trans (List.sublist_append_right front _))

/-- An element stands before another one exactly if it ranks lower, or if it ranks the same and
stood before it. -/
theorem pair_sublist_rankSort_iff :
    [a, b].Sublist (rankSort rank xs) ↔
      (a ∈ xs ∧ b ∈ xs ∧ rank a < rank b) ∨ (rank a = rank b ∧ [a, b].Sublist xs) := by
  constructor
  · intro h
    have ha : a ∈ xs := mem_rankSort.mp (h.subset (by simp))
    have hb : b ∈ xs := mem_rankSort.mp (h.subset (by simp))
    rcases Nat.lt_or_eq_of_le (rank_le_of_pair_sublist h) with hlt | heq
    · exact .inl ⟨ha, hb, hlt⟩
    · have hfilter := h.filter fun c => decide (rank c = rank b)
      rw [filter_rankSort] at hfilter
      refine .inr ⟨heq, ?_⟩
      simpa [heq] using hfilter.trans List.filter_sublist
  · rintro (⟨ha, hb, hlt⟩ | ⟨heq, h⟩)
    · have hne : a ≠ b := by
        rintro rfl
        omega
      refine (pair_sublist_or (mem_rankSort.mpr ha) (mem_rankSort.mpr hb) hne).resolve_right ?_
      intro hback
      have hle := rank_le_of_pair_sublist hback
      omega
    · rw [rankSort_eq_insertionSort]
      exact List.pair_sublist_insertionSort (Nat.le_of_eq heq) h

/-! ## Caps -/

theorem cut_map (f : α → β) (cap : Int) (xs : List α) : cut cap (xs.map f) = (cut cap xs).map f := by
  rw [cut, cut, List.length_map]
  split <;> rw [List.map_take]

end FuzzSynth.Sequence
