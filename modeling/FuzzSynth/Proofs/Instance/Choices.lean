/-
Choosing one element from each of several lists.

A choice is an element of each list (`mem_choices_iff`), and making only some choices gives the
first ones of all (`firstChoices_eq_take`).  The last choice changes fastest, so a choice can be
read off from its number the way digits are: each list has a stride, which is the number of choices
from the lists behind it, and the digit of the number at that stride is the place of the element
that is chosen (`getElem?_choices`).
-/
import Mathlib.Algebra.BigOperators.Group.List.Basic
import Mathlib.Data.List.Forall2
import Mathlib.Data.List.Nodup
import FuzzSynth.Instance.Resolution

namespace FuzzSynth

variable {α β : Type} {lists : List (List α)} {options choice : List α} {place : Nat}

/-! ## All choices -/

/-- A choice is an element of each list. -/
theorem mem_choices_iff :
    choice ∈ choices lists ↔ List.Forall₂ (fun a options => a ∈ options) choice lists := by
  induction lists generalizing choice with
  | nil => simp [choices]
  | cons options rest ih =>
      rw [choices, List.mem_flatMap, List.forall₂_cons_right_iff]
      simp only [List.mem_map, ih]
      constructor
      · rintro ⟨a, ha, tail, htail, rfl⟩
        exact ⟨a, tail, ha, htail, rfl⟩
      · rintro ⟨a, tail, ha, htail, rfl⟩
        exact ⟨a, ha, tail, htail, rfl⟩

theorem length_choices (lists : List (List α)) :
    (choices lists).length = (lists.map List.length).prod := by
  induction lists with
  | nil => rfl
  | cons options rest ih => simp [choices, List.length_flatMap, ih]

/-- If the options of each list differ, so do the choices. -/
theorem nodup_map_choices {f : α → β} (h : ∀ options ∈ lists, (options.map f).Nodup) :
    ((choices lists).map (List.map f)).Nodup := by
  induction lists with
  | nil => simp [choices]
  | cons options rest ih =>
      obtain ⟨hoptions, hrest⟩ := List.forall_mem_cons.mp h
      rw [choices, List.map_flatMap, List.nodup_flatMap]
      constructor
      · -- with the same first element they differ behind it
        intro a _
        rw [List.map_map]
        have hmap : (List.map f ∘ (a :: ·)) = (f a :: ·) ∘ List.map f := rfl
        rw [hmap, ← List.map_map]
        exact (ih hrest).map List.cons_injective
      · refine (List.pairwise_map.mp hoptions).imp fun hne => ?_
        intro choice ha hb
        simp only [List.mem_map] at ha hb
        obtain ⟨_, ⟨_, _, rfl⟩, rfl⟩ := ha
        obtain ⟨_, ⟨_, _, rfl⟩, heq⟩ := hb
        exact hne (List.cons.inj heq).1.symm

/-! ## The first choices -/

theorem takeFlat_eq_take (n : Nat) (make : α → List β) (xs : List α) :
    takeFlat n make xs = (xs.flatMap make).take n := by
  induction xs generalizing n with
  | nil => simp [takeFlat]
  | cons a rest ih =>
      simp only [takeFlat, List.flatMap_cons]
      split
      · next h => rw [List.take_append_of_le_length h]
      · next h => rw [List.take_append, List.take_of_length_le (by omega), ih]

/-- Making some choices gives the first ones of all. -/
theorem firstChoices_eq_take (n : Nat) (lists : List (List α)) :
    firstChoices n lists = (choices lists).take n := by
  induction lists with
  | nil => rfl
  | cons options rest ih =>
      rw [firstChoices, takeFlat_eq_take, ih, choices]
      by_cases hlong : n ≤ (choices rest).length
      · -- with the first option alone there are as many as are asked for
        cases options with
        | nil => rfl
        | cons a others =>
            have hfew : n ≤ (((choices rest).take n).map (a :: ·)).length := by
              rw [List.length_map, List.length_take]
              omega
            have hall : n ≤ ((choices rest).map (a :: ·)).length := by
              rwa [List.length_map]
            rw [List.flatMap_cons, List.flatMap_cons, List.take_append_of_le_length hfew,
              List.take_append_of_le_length hall, ← List.map_take, List.take_take, Nat.min_self,
              List.map_take]
      · have hwhole : (choices rest).take n = choices rest := List.take_of_length_le (by omega)
        rw [hwhole]

/-! ## The number of a choice -/

/-- The number of choices from the lists behind a place. -/
def stride (lists : List (List α)) (place : Nat) : Nat :=
  ((lists.drop (place + 1)).map List.length).prod

theorem stride_mul_length_dvd (h : lists[place]? = some options) :
    stride lists place * options.length ∣ (lists.map List.length).prod := by
  obtain ⟨hlt, rfl⟩ := List.getElem?_eq_some_iff.mp h
  have hsplit : lists = lists.take place ++ lists[place] :: lists.drop (place + 1) := by
    rw [List.getElem_cons_drop, List.take_append_drop]
  refine ⟨((lists.take place).map List.length).prod, ?_⟩
  calc (lists.map List.length).prod
      = ((lists.take place ++ lists[place] :: lists.drop (place + 1)).map List.length).prod := by
        rw [← hsplit]
    _ = ((lists.take place).map List.length).prod * (lists[place].length * stride lists place) := by
        rw [List.map_append, List.prod_append, List.map_cons, List.prod_cons, stride]
    _ = stride lists place * lists[place].length * ((lists.take place).map List.length).prod := by
        rw [Nat.mul_comm, Nat.mul_comm (stride lists place)]

/-- Leaving out the digits above does not change a digit. -/
theorem mod_div_mod_of_dvd {unit base whole : Nat} (h : unit * base ∣ whole) (k : Nat) :
    k % whole / unit % base = k / unit % base := by
  rw [← Nat.mod_mul_right_div_self, Nat.mod_mod_of_dvd k h, Nat.mod_mul_right_div_self]

/-- The lists with the same first element stand together, in the order of the elements. -/
theorem getElem?_flatMap_cons (options : List α) (tails : List (List α)) (k : Nat) :
    (options.flatMap fun a => tails.map (a :: ·))[k]? =
      (options[k / tails.length]?).bind fun a => (tails[k % tails.length]?).map (a :: ·) := by
  rcases Nat.eq_zero_or_pos tails.length with hnone | hpos
  · obtain rfl := List.length_eq_zero_iff.mp hnone
    simp
  · induction options generalizing k with
    | nil => simp
    | cons a rest ih =>
        rw [List.flatMap_cons]
        by_cases hk : k < tails.length
        · rw [List.getElem?_append_left (by simpa using hk), Nat.div_eq_of_lt hk,
            Nat.mod_eq_of_lt hk]
          simp
        · -- those with the first element are passed by
          have hle : tails.length ≤ k := Nat.not_lt.mp hk
          have hdiv : k / tails.length = (k - tails.length) / tails.length + 1 :=
            Nat.div_eq_sub_div hpos hle
          rw [List.getElem?_append_right (by simpa using hle), List.length_map, ih, hdiv,
            List.getElem?_cons_succ, ← Nat.mod_eq_sub_mod hle]

/-- What is chosen from a list stands at the digit of the number of the choice. -/
theorem getElem?_choices {k : Nat} (h : (choices lists)[k]? = some choice)
    (hplace : lists[place]? = some options) :
    ∃ a, choice[place]? = some a ∧
      options[k / stride lists place % options.length]? = some a := by
  induction lists generalizing k choice place with
  | nil => cases hplace
  | cons first rest ih =>
      rw [choices, getElem?_flatMap_cons, length_choices] at h
      obtain ⟨a, ha, h⟩ := Option.bind_eq_some_iff.mp h
      obtain ⟨tail, htail, rfl⟩ := Option.map_eq_some_iff.mp h
      cases place with
      | zero =>
          -- no digit stands above this one
          obtain rfl : first = options := Option.some.inj hplace
          have hlt := (List.getElem?_eq_some_iff.mp ha).1
          refine ⟨a, rfl, ?_⟩
          show first[k / (rest.map List.length).prod % first.length]? = some a
          rwa [Nat.mod_eq_of_lt hlt]
      | succ place =>
          have hplace : rest[place]? = some options := hplace
          obtain ⟨b, hb, hdigit⟩ := ih htail hplace
          rw [mod_div_mod_of_dvd (stride_mul_length_dvd hplace)] at hdigit
          exact ⟨b, hb, hdigit⟩

end FuzzSynth
