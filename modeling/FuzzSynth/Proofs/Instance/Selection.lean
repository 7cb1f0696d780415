/-
Selections.

What a round of a selection takes depends on what is covered and on what is left, and not on
how many rounds follow.  So more rounds only go on where fewer stop (`selectRounds_isPrefix`),
and a larger cap only extends what a smaller one keeps (`selectItems_isPrefix`).  Nothing is taken
twice (`selectRounds_subperm`).

Items may be renamed before they are selected or afterwards (`selectRounds_map`).
-/
import Mathlib.Data.List.Infix
import Mathlib.Data.List.Perm.Subperm
import FuzzSynth.Instance.Selection

namespace FuzzSynth

variable {α β : Type} {api : α → Instance} {rounds : Nat} {covered : Coverage} {items : List α}

/-! ## Rounds -/

/-- What is selected are some of the items, each as often as it is there at most. -/
theorem selectRounds_subperm (rounds : Nat) (covered : Coverage) (items : List α) :
    (selectRounds api rounds covered items).Subperm items := by
  induction rounds generalizing covered items with
  | zero => exact List.nil_subperm
  | succ rounds ih =>
      unfold selectRounds
      split
      · exact List.nil_subperm
      · next best others hbest =>
          have hothers := ih (covered.add (api best)) others
          exact ((List.subperm_cons best).mpr hothers).trans (takeBest_perm hbest).symm.subperm

/-- As many items are selected as there are rounds, while items are left. -/
theorem length_selectRounds (rounds : Nat) (covered : Coverage) (items : List α) :
    (selectRounds api rounds covered items).length = min rounds items.length := by
  induction rounds generalizing covered items with
  | zero => simp [selectRounds]
  | succ rounds ih =>
      unfold selectRounds
      split
      · next hnone => simp [takeBest_eq_none_iff.mp hnone]
      · next best others hbest =>
          have hlength := (takeBest_perm hbest).length_eq
          rw [List.length_cons] at hlength
          rw [List.length_cons, ih]
          omega

/-- More rounds go on where fewer stop. -/
theorem selectRounds_isPrefix {more : Nat} (h : rounds ≤ more) (covered : Coverage)
    (items : List α) :
    selectRounds api rounds covered items <+: selectRounds api more covered items := by
  induction rounds generalizing more covered items with
  | zero => exact List.nil_prefix
  | succ rounds ih =>
      -- both take the same item in the first round, and cover the same by it
      obtain ⟨more, rfl⟩ : ∃ n, more = n + 1 := ⟨more - 1, by omega⟩
      rw [selectRounds, selectRounds]
      cases takeBest (fun a => covered.gain (api a)) items with
      | none => exact List.nil_prefix
      | some taken =>
          have hrest := ih (Nat.le_of_succ_le_succ h) (covered.add (api taken.1)) taken.2
          exact (List.prefix_cons_inj taken.1).mpr hrest

/-! ## Renaming -/

theorem takeBest_map (f : α → β) (gain : β → Nat × Nat) (items : List α) :
    takeBest gain (items.map f) =
      (takeBest (fun a => gain (f a)) items).map fun taken => (f taken.1, taken.2.map f) := by
  induction items with
  | nil => rfl
  | cons a rest ih =>
      rw [List.map_cons, takeBest, takeBest, ih]
      cases takeBest (fun a => gain (f a)) rest with
      | none => rfl
      | some taken =>
          simp only [Option.map_some]
          split <;> rfl

/-- What is selected out of an image is the image of what is selected. -/
theorem selectRounds_map (f : α → β) (api : β → Instance) (rounds : Nat) (covered : Coverage)
    (items : List α) :
    selectRounds api rounds covered (items.map f) =
      (selectRounds (fun a => api (f a)) rounds covered items).map f := by
  induction rounds generalizing covered items with
  | zero => rfl
  | succ rounds ih =>
      rw [selectRounds, selectRounds, takeBest_map]
      cases takeBest (fun a => covered.gain (api (f a))) items with
      | none => rfl
      | some taken => simp only [Option.map_some, List.map_cons, ih]

/-- A selection depends on the types that are put in and where they are put in. -/
theorem selectRounds_congr {api other : α → Instance}
    (htypes : ∀ a, (other a).substitution.types = (api a).substitution.types)
    (hcoverage : ∀ a, (other a).substitution.coverage = (api a).substitution.coverage)
    (rounds : Nat) (covered : Coverage) (items : List α) :
    selectRounds other rounds covered items = selectRounds api rounds covered items := by
  have hgain : ∀ (covered : Coverage) (a : α), covered.gain (other a) = covered.gain (api a) :=
    fun covered a => by rw [Coverage.gain, Coverage.gain, htypes, hcoverage]
  have hadd : ∀ (covered : Coverage) (a : α), covered.add (other a) = covered.add (api a) :=
    fun covered a => by rw [Coverage.add, Coverage.add, htypes, hcoverage]
  induction rounds generalizing covered items with
  | zero => rfl
  | succ rounds ih =>
      rw [selectRounds, selectRounds, funext (hgain covered)]
      cases takeBest (fun a => covered.gain (api a)) items with
      | none => rfl
      | some taken => simp only [hadd, ih]

/-! ## Caps -/

theorem length_selectItems (api : α → Instance) (items : List α) (cap : Int) :
    (selectItems api items cap).length = min cap.toNat items.length := by
  rw [selectItems, length_selectRounds]
  omega

theorem selectItems_subperm (api : α → Instance) (items : List α) (cap : Int) :
    (selectItems api items cap).Subperm items :=
  selectRounds_subperm _ _ _

/-- A larger cap goes on where a smaller one stops. -/
theorem selectItems_isPrefix {cap larger : Int} (h : cap ≤ larger) (api : α → Instance)
    (items : List α) : selectItems api items cap <+: selectItems api items larger :=
  selectRounds_isPrefix (by omega) _ _

/-- A cap that is a number allows that number of rounds; those for which nothing is left take
nothing. -/
theorem selectItems_natCast (api : α → Instance) (items : List α) (k : Nat) :
    selectItems api items k = selectRounds api k .none items := by
  have hle : min k items.length ≤ k := Nat.min_le_left _ _
  have hlength : (selectRounds api (min k items.length) .none items).length =
      (selectRounds api k .none items).length := by
    rw [length_selectRounds, length_selectRounds]
    omega
  exact (selectRounds_isPrefix hle _ _).eq_of_length hlength

theorem selectItems_map (f : α → β) (api : β → Instance) (items : List α) (cap : Int) :
    selectItems api (items.map f) cap = (selectItems (fun a => api (f a)) items cap).map f := by
  rw [selectItems, selectItems, selectRounds_map, List.length_map]

/-! ## Instances -/

/-- A change of instances that keeps what they put in for which parameter makes no difference to
what is selected. -/
theorem selectDiverse_map {f : Instance → Instance}
    (htypes : ∀ m, (f m).substitution.types = m.substitution.types)
    (hcoverage : ∀ m, (f m).substitution.coverage = m.substitution.coverage)
    (instances : List Instance) (cap : Int) :
    selectDiverse (instances.map f) cap = (selectDiverse instances cap).map f := by
  rw [selectDiverse, selectItems, selectRounds_map, List.length_map]
  exact congrArg _ (selectRounds_congr htypes hcoverage _ _ _)

/-- The types that instances put in, with repetitions. -/
def typesPutIn (instances : List Instance) : List Ty :=
  instances.flatMap fun m => m.substitution.types

theorem typesPutIn_subset {instances others : List Instance} (h : instances ⊆ others) :
    typesPutIn instances ⊆ typesPutIn others := by
  intro t ht
  obtain ⟨m, hm, hput⟩ := List.mem_flatMap.mp ht
  exact List.mem_flatMap.mpr ⟨m, h hm, hput⟩

/-- The places in a list of the instances that a cap keeps, in order of selection. -/
def selectedPlaces (instances : List Instance) (cap : Int) : List Nat :=
  (selectItems Prod.fst instances.zipIdx cap).map Prod.snd

/-- No place is selected twice, so of instances that look alike none is taken for another. -/
theorem nodup_selectedPlaces (instances : List Instance) (cap : Int) :
    (selectedPlaces instances cap).Nodup := by
  have hplaces : (instances.zipIdx.map Prod.snd).Nodup := by
    rw [List.zipIdx_map_snd]
    exact List.nodup_range'
  obtain ⟨taken, hperm, hsublist⟩ := selectItems_subperm Prod.fst instances.zipIdx cap
  exact (hperm.map Prod.snd).nodup_iff.mp (hplaces.sublist (hsublist.map Prod.snd))

/-- The selected instances are those at the selected places. -/
theorem map_getElem?_selectedPlaces (instances : List Instance) (cap : Int) :
    (selectedPlaces instances cap).map (fun place => instances[place]?) =
      (selectDiverse instances cap).map some := by
  have hselected : selectDiverse instances cap =
      (selectItems Prod.fst instances.zipIdx cap).map Prod.fst := by
    have hmap := selectItems_map Prod.fst id instances.zipIdx cap
    rwa [List.zipIdx_map_fst] at hmap
  rw [hselected, selectedPlaces, List.map_map, List.map_map]
  refine List.map_congr_left fun entry hentry => ?_
  have hmem := (selectItems_subperm Prod.fst instances.zipIdx cap).subset hentry
  exact List.mem_zipIdx_iff_getElem?.mp hmem

theorem length_selectDiverse (instances : List Instance) (cap : Int) :
    (selectDiverse instances cap).length = min cap.toNat instances.length :=
  length_selectItems id instances cap

end FuzzSynth
