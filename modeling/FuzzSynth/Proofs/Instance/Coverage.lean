/-
How much a selection covers.

Each round takes an instance that puts in as many new types as any that is left
(`gain_le_of_takeBest`).  So whichever `k` instances one compares with, a round makes up for at
least a `k`-th of the types that these put in and that are not covered yet
(`LeftOrCovered.mul_missing_le`), and after `k` rounds at most the fraction `(1 - 1/k) ^ k` of the
most that `k` instances can put in is missing (`pow_mul_mostTypes_sub_le`).

While some type is not covered, an instance that puts it in is left, so that a round covers one
more type at least (`LeftOrCovered.one_le_gain`).  `k` rounds cover `k` types, or all there are
(`min_le_typeCount_selectDiverse`).

The invariant of the rounds is `LeftOrCovered`: an instance that one compares with is among the
items that are left, or all its types have been put in.
-/
import Mathlib.Algebra.Order.Ring.Int
import Mathlib.Data.Finset.Card
import Mathlib.Data.Finset.Lattice.Fold
import Mathlib.Data.List.Sublists
import Mathlib.Order.Bounds.Basic
import Mathlib.Order.Lattice.Nat
import Mathlib.Tactic.Linarith
import FuzzSynth.Proofs.Instance.Selection

namespace FuzzSynth

/-! ## Counting types -/

/-- The number of different types that instances put in. -/
def typeCount (instances : List Instance) : Nat :=
  (Sequence.distinct (typesPutIn instances)).length

/-- The most types that at most `k` of the instances put in. -/
def mostTypes (k : Nat) (instances : List Instance) : Nat :=
  (instances.sublists.filter fun chosen => chosen.length ≤ k).toFinset.sup typeCount

theorem typeCount_eq_card (instances : List Instance) :
    typeCount instances = (typesPutIn instances).toFinset.card := by
  rw [typeCount, ← List.toFinset_card_of_nodup (Sequence.nodup_distinct _)]
  congr 1
  ext t
  simp

/-- `mostTypes` is what it says: some instances put in that many types, and none more. -/
theorem isGreatest_mostTypes (k : Nat) (instances : List Instance) :
    IsGreatest {n | ∃ chosen : List Instance, chosen.Sublist instances ∧ chosen.length ≤ k ∧
      typeCount chosen = n} (mostTypes k instances) := by
  have hmem : ∀ chosen, chosen ∈ (instances.sublists.filter fun c => c.length ≤ k).toFinset ↔
      chosen.Sublist instances ∧ chosen.length ≤ k := by
    simp
  constructor
  · -- no instances at all are one way to choose
    have hnone : (instances.sublists.filter fun c => c.length ≤ k).toFinset.Nonempty :=
      ⟨[], (hmem []).mpr ⟨List.nil_sublist _, Nat.zero_le k⟩⟩
    obtain ⟨chosen, hchosen, hsup⟩ := Finset.exists_mem_eq_sup _ hnone typeCount
    obtain ⟨hsublist, hlength⟩ := (hmem chosen).mp hchosen
    exact ⟨chosen, hsublist, hlength, hsup.symm⟩
  · rintro n ⟨chosen, hsublist, hlength, rfl⟩
    exact Finset.le_sup (f := typeCount) ((hmem chosen).mpr ⟨hsublist, hlength⟩)

/-! ## Gains -/

section Gains

variable {covered : Coverage} {items others : List Instance} {m best : Instance}

theorem gainExceeds_eq_true_iff {a b : Nat × Nat} :
    gainExceeds a b = true ↔ b.1 < a.1 ∨ a.1 = b.1 ∧ b.2 < a.2 := by
  simp [gainExceeds]

/-- No item has a greater gain than the one that is taken. -/
theorem not_gainExceeds_of_takeBest {α : Type} {gain : α → Nat × Nat} {items others : List α}
    {best : α} (h : takeBest gain items = some (best, others)) :
    ∀ a ∈ items, ¬ gainExceeds (gain a) (gain best) = true := by
  induction items generalizing best others with
  | nil => simp
  | cons first rest ih =>
      simp only [gainExceeds_eq_true_iff] at ih ⊢
      unfold takeBest at h
      split at h
      · next hnone =>
          -- the first item is the only one
          obtain ⟨rfl, rfl⟩ : first = best ∧ [] = others := by simpa using h
          rw [takeBest_eq_none_iff.mp hnone]
          simp
      · next last left hlast =>
          have hrest := ih hlast
          split at h
          · next hexceeds =>
              rw [gainExceeds_eq_true_iff] at hexceeds
              obtain ⟨rfl, -⟩ : last = best ∧ first :: left = others := by simpa using h
              refine List.forall_mem_cons.mpr ⟨?_, hrest⟩
              omega
          · next hexceeds =>
              -- the first item is as good as the best of the others, so as good as all of them
              rw [gainExceeds_eq_true_iff] at hexceeds
              obtain ⟨rfl, -⟩ : first = best ∧ rest = others := by simpa using h
              refine List.forall_mem_cons.mpr ⟨by omega, fun a ha => ?_⟩
              have hle := hrest a ha
              omega

theorem gain_le_of_takeBest (h : takeBest covered.gain items = some (best, others))
    (hm : m ∈ items) : (covered.gain m).1 ≤ (covered.gain best).1 := by
  have hexceeds := not_gainExceeds_of_takeBest h m hm
  rw [gainExceeds_eq_true_iff] at hexceeds
  omega

/-- The gain of an instance counts its types that are not covered. -/
theorem gain_fst (covered : Coverage) (m : Instance) :
    (covered.gain m).1 = (m.substitution.types.toFinset \ covered.types.toFinset).card := by
  dsimp only [Coverage.gain]
  have hnodup := (Sequence.nodup_distinct m.substitution.types).filter
    (fun t => !covered.types.contains t)
  rw [← List.toFinset_card_of_nodup hnodup]
  congr 1
  ext t
  simp

/-- An instance whose types are covered gains nothing. -/
theorem gain_fst_of_subset (h : m.substitution.types ⊆ covered.types) :
    (covered.gain m).1 = 0 := by
  rw [gain_fst, Finset.card_eq_zero, Finset.sdiff_eq_empty_iff_subset]
  intro t ht
  exact List.mem_toFinset.mpr (h (List.mem_toFinset.mp ht))

/-- Taking an instance covers its gain in addition. -/
theorem card_add (covered : Coverage) (m : Instance) :
    (covered.add m).types.toFinset.card = covered.types.toFinset.card + (covered.gain m).1 := by
  rw [gain_fst, Coverage.add, List.toFinset_append, ← Finset.card_sdiff_add_card, Nat.add_comm]

/-- Instances that add at most `most` types each put in no more than these and what is covered. -/
theorem typeCount_le_add_mul {chosen : List Instance} {most : Nat}
    (h : ∀ m ∈ chosen, (covered.gain m).1 ≤ most) :
    typeCount chosen ≤ covered.types.toFinset.card + chosen.length * most := by
  have hnew : ((typesPutIn chosen).toFinset \ covered.types.toFinset).card ≤
      chosen.length * most := by
    induction chosen with
    | nil => simp [typesPutIn]
    | cons m rest ih =>
        have hm := h m List.mem_cons_self
        have hrest := ih fun other hother => h other (List.mem_cons_of_mem m hother)
        have hputIn : typesPutIn (m :: rest) = m.substitution.types ++ typesPutIn rest := rfl
        rw [gain_fst] at hm
        rw [hputIn, List.toFinset_append, Finset.union_sdiff_distrib, List.length_cons,
          Nat.add_mul, Nat.one_mul]
        have hunion := Finset.card_union_le (m.substitution.types.toFinset \ covered.types.toFinset)
          ((typesPutIn rest).toFinset \ covered.types.toFinset)
        omega
  rw [typeCount_eq_card]
  have hsplit := Finset.card_le_card_sdiff_add_card (s := (typesPutIn chosen).toFinset)
    (t := covered.types.toFinset)
  omega

end Gains

/-! ## One round -/

/-- Each of the chosen instances is still among the items, or all its types are covered. -/
def LeftOrCovered (chosen : List Instance) (covered : Coverage) (items : List Instance) : Prop :=
  ∀ m ∈ chosen, m ∈ items ∨ m.substitution.types ⊆ covered.types

namespace LeftOrCovered

variable {chosen items others : List Instance} {covered : Coverage} {best : Instance} {k : Nat}

/-- The instance that a round takes is covered after it, and the others are still there. -/
theorem add (h : LeftOrCovered chosen covered items)
    (hbest : takeBest covered.gain items = some (best, others)) :
    LeftOrCovered chosen (covered.add best) others := by
  intro m hm
  rcases h m hm with hitem | hsub
  · rcases List.mem_cons.mp ((takeBest_perm hbest).mem_iff.mp hitem) with rfl | hother
    · exact .inr (List.subset_append_left _ _)
    · exact .inl hother
  · exact .inr (List.Subset.trans hsub (List.subset_append_right _ _))

theorem gain_le (h : LeftOrCovered chosen covered items)
    (hbest : takeBest covered.gain items = some (best, others)) :
    ∀ m ∈ chosen, (covered.gain m).1 ≤ (covered.gain best).1 := by
  intro m hm
  rcases h m hm with hitem | hsub
  · exact gain_le_of_takeBest hbest hitem
  · rw [gain_fst_of_subset hsub]
    exact Nat.zero_le _

/-- A round makes up for at least a `k`-th of what is missing of the types of `k` instances. -/
theorem mul_missing_le (h : LeftOrCovered chosen covered items)
    (hbest : takeBest covered.gain items = some (best, others)) (hlength : chosen.length ≤ k) :
    (k : Int) * (typeCount chosen - (covered.add best).types.toFinset.card) ≤
      (k - 1) * (typeCount chosen - covered.types.toFinset.card) := by
  have hmissing := typeCount_le_add_mul (h.gain_le hbest)
  have hmost := Nat.mul_le_mul_right (covered.gain best).1 hlength
  have htotal : (typeCount chosen : Int) ≤
      covered.types.toFinset.card + k * (covered.gain best).1 := by
    exact_mod_cast hmissing.trans (Nat.add_le_add_left hmost _)
  rw [card_add]
  push_cast
  linarith

/-- While something is missing, a round puts in a type that is not covered. -/
theorem one_le_gain (h : LeftOrCovered chosen covered items)
    (hbest : takeBest covered.gain items = some (best, others))
    (hmissing : covered.types.toFinset.card < typeCount chosen) : 1 ≤ (covered.gain best).1 := by
  have hputIn := typeCount_le_add_mul (h.gain_le hbest)
  by_contra hnone
  -- instances that add nothing put in no more than what is covered
  rw [show (covered.gain best).1 = 0 by omega, Nat.mul_zero] at hputIn
  omega

/-- When nothing is left, nothing is missing. -/
theorem missing_nonpos (h : LeftOrCovered chosen covered []) :
    (typeCount chosen : Int) - covered.types.toFinset.card ≤ 0 := by
  have hcovered : ∀ m ∈ chosen, (covered.gain m).1 ≤ 0 := by
    intro m hm
    exact (gain_fst_of_subset ((h m hm).resolve_left List.not_mem_nil)).le
  have hle := typeCount_le_add_mul hcovered
  omega

end LeftOrCovered

/-! ## All rounds -/

section Rounds

variable {covered : Coverage} {items others : List Instance} {best : Instance} {rounds : Nat}

theorem selectRounds_succ (h : takeBest covered.gain items = some (best, others)) :
    selectRounds id (rounds + 1) covered items =
      best :: selectRounds id rounds (covered.add best) others := by
  simp only [selectRounds, id_eq, h]

/-- What is covered after all rounds is what the first one and the others cover. -/
theorem toFinset_append_typesPutIn_cons (covered : Coverage) (best : Instance)
    (chosen : List Instance) :
    (covered.types ++ typesPutIn (best :: chosen)).toFinset =
      ((covered.add best).types ++ typesPutIn chosen).toFinset := by
  ext t
  simp [Coverage.add, typesPutIn, or_left_comm]

end Rounds

/-- What is missing of the types of at most `k` instances is, after a number of rounds, at most
the fraction `1 - 1/k` of what was missing before, once for each round. -/
theorem pow_mul_missing_le {k : Nat} (hk : 1 ≤ k) {chosen : List Instance}
    (hlength : chosen.length ≤ k) (rounds : Nat) (covered : Coverage) (items : List Instance)
    (h : LeftOrCovered chosen covered items) :
    (k : Int) ^ rounds * (typeCount chosen -
        (covered.types ++ typesPutIn (selectRounds id rounds covered items)).toFinset.card) ≤
      (k - 1 : Int) ^ rounds * (typeCount chosen - covered.types.toFinset.card) := by
  have hfraction : (0 : Int) ≤ k - 1 := by omega
  induction rounds generalizing covered items with
  | zero => simp [selectRounds, typesPutIn]
  | succ rounds ih =>
      cases hbest : takeBest covered.gain items with
      | none =>
          rw [takeBest_eq_none_iff.mp hbest] at h
          have hpow : (k - 1 : Int) ^ (rounds + 1) ≤ (k : Int) ^ (rounds + 1) :=
            pow_le_pow_left₀ hfraction (by omega) _
          simp only [selectRounds, id_eq, hbest, typesPutIn, List.flatMap_nil, List.append_nil]
          exact mul_le_mul_of_nonpos_right hpow h.missing_nonpos
      | some taken =>
          obtain ⟨best, others⟩ := taken
          have hrest := ih (covered.add best) others (h.add hbest)
          have hround := h.mul_missing_le hbest hlength
          rw [selectRounds_succ hbest, toFinset_append_typesPutIn_cons, pow_succ', pow_succ,
            mul_assoc, mul_assoc]
          calc (k : Int) * ((k : Int) ^ rounds * (typeCount chosen - ((covered.add best).types ++
                  typesPutIn (selectRounds id rounds (covered.add best) others)).toFinset.card))
              ≤ k * ((k - 1) ^ rounds *
                  (typeCount chosen - (covered.add best).types.toFinset.card)) :=
                mul_le_mul_of_nonneg_left hrest (Int.natCast_nonneg k)
            _ = (k - 1) ^ rounds *
                  (k * (typeCount chosen - (covered.add best).types.toFinset.card)) :=
                mul_left_comm _ _ _
            _ ≤ (k - 1) ^ rounds *
                  ((k - 1) * (typeCount chosen - covered.types.toFinset.card)) :=
                mul_le_mul_of_nonneg_left hround (pow_nonneg hfraction rounds)

/-- A selection of `k` instances puts in at least the fraction `1 - (1 - 1/k) ^ k` of the most
types that any `k` of the instances put in. -/
theorem pow_mul_mostTypes_sub_le {k : Nat} (hk : 1 ≤ k) (instances : List Instance) :
    (k : Int) ^ k * (mostTypes k instances - typeCount (selectDiverse instances k)) ≤
      (k - 1 : Int) ^ k * mostTypes k instances := by
  obtain ⟨chosen, hsublist, hlength, hmost⟩ := (isGreatest_mostTypes k instances).1
  have hbound := pow_mul_missing_le hk hlength k .none instances fun m hm =>
    .inl (hsublist.subset hm)
  have hselected : selectDiverse instances k = selectRounds id k .none instances :=
    selectItems_natCast id instances k
  rw [hmost] at hbound
  rw [hselected, typeCount_eq_card]
  simpa [Coverage.none] using hbound

/-! ### A small case -/

/-- A function of any number of types. -/
def offer (names : List String) : Instance :=
  let api : Signature :=
    ⟨"offer", names.mapIdx fun i name => ⟨name, i, .empty, "offer"⟩, [], .unit⟩
  api.instanceOf (.ofLists api.generics (names.map fun name => ⟨.named name [], .empty⟩))

/-- Two instances cover six types between them, and a third one four of these. -/
def overlappingOffers : List Instance :=
  [offer ["a", "b", "c"], offer ["d", "e", "f"], offer ["b", "c", "d", "e"]]

/-- The selection begins with the third one, so that it misses one of the six types; the bound
lets it miss one. -/
theorem pow_mul_mostTypes_sub_le_overlappingOffers :
    1 ≤ 2 ∧ mostTypes 2 overlappingOffers = 6 ∧
      typeCount (selectDiverse overlappingOffers 2) = 5 ∧
      (2 : Int) ^ 2 * (6 - 5) ≤ (2 - 1) ^ 2 * 6 := by
  have hcap : 1 ≤ 2 := by decide
  have hmost : mostTypes 2 overlappingOffers = 6 := by decide +kernel
  have hselected : typeCount (selectDiverse overlappingOffers 2) = 5 := by decide +kernel
  have hbound := pow_mul_mostTypes_sub_le hcap overlappingOffers
  rw [hmost] at hbound
  refine ⟨hcap, hmost, hselected, ?_⟩
  rw [show ((2 : Nat) : Int) = 2 from rfl] at hbound
  rw [hselected] at hbound
  exact hbound

/-! ## A type a round -/

/-- Each round covers one more type, until nothing is missing. -/
theorem min_card_add_le {chosen : List Instance} (rounds : Nat) (covered : Coverage)
    (items : List Instance) (h : LeftOrCovered chosen covered items) :
    min (covered.types.toFinset.card + rounds) (typeCount chosen) ≤
      (covered.types ++ typesPutIn (selectRounds id rounds covered items)).toFinset.card := by
  induction rounds generalizing covered items with
  | zero =>
      simp only [selectRounds, typesPutIn, List.flatMap_nil, List.append_nil]
      exact Nat.min_le_left _ _
  | succ rounds ih =>
      cases hbest : takeBest covered.gain items with
      | none =>
          rw [takeBest_eq_none_iff.mp hbest] at h
          -- nothing is left, so by the invariant nothing is missing
          have hnothing := h.missing_nonpos
          simp only [selectRounds, id_eq, hbest, typesPutIn, List.flatMap_nil, List.append_nil]
          omega
      | some taken =>
          obtain ⟨best, others⟩ := taken
          have hrest := ih (covered.add best) others (h.add hbest)
          have hround := h.one_le_gain hbest
          rw [selectRounds_succ hbest, toFinset_append_typesPutIn_cons]
          rw [card_add] at hrest
          omega

/-- Under a cap of `k`, instances are selected that put in `k` different types at least, or all
types there are.  A cap of as many as there are types leaves none of them out. -/
theorem min_le_typeCount_selectDiverse (instances : List Instance) (k : Nat) :
    min k (typeCount instances) ≤ typeCount (selectDiverse instances k) ∧
      (typeCount instances ≤ k →
        ∀ t, t ∈ typesPutIn (selectDiverse instances k) ↔ t ∈ typesPutIn instances) := by
  have hcovers : min k (typeCount instances) ≤ typeCount (selectDiverse instances k) := by
    have hrounds := min_card_add_le k .none instances fun m hm => .inl hm
    have hselected : selectDiverse instances k = selectRounds id k .none instances :=
      selectItems_natCast id instances k
    rw [hselected, typeCount_eq_card (selectRounds id k .none instances)]
    simpa [Coverage.none] using hrounds
  refine ⟨hcovers, fun hcap => ?_⟩
  have hsubset : typesPutIn (selectDiverse instances k) ⊆ typesPutIn instances :=
    typesPutIn_subset (selectItems_subperm id instances k).subset
  -- as many types are put in as there are, so these are all
  have hall : (typesPutIn (selectDiverse instances k)).toFinset =
      (typesPutIn instances).toFinset := by
    refine Finset.eq_of_subset_of_card_le
      (fun t ht => List.mem_toFinset.mpr (hsubset (List.mem_toFinset.mp ht))) ?_
    rw [← typeCount_eq_card, ← typeCount_eq_card]
    omega
  intro t
  rw [← List.mem_toFinset, hall, List.mem_toFinset]

/-- Two rounds put in two types at least, and a cap of six leaves out none of the six. -/
theorem min_le_typeCount_selectDiverse_overlappingOffers :
    typeCount overlappingOffers = 6 ∧ min 2 6 ≤ typeCount (selectDiverse overlappingOffers 2) ∧
      typeCount overlappingOffers ≤ 6 ∧ ∀ t, t ∈ typesPutIn (selectDiverse overlappingOffers 6) ↔
        t ∈ typesPutIn overlappingOffers := by
  have hcount : typeCount overlappingOffers = 6 := by decide +kernel
  have htwo := (min_le_typeCount_selectDiverse overlappingOffers 2).1
  rw [hcount] at htwo
  exact ⟨hcount, htwo, hcount.le,
    (min_le_typeCount_selectDiverse overlappingOffers 6).2 hcount.le⟩

end FuzzSynth
