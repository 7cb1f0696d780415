/-
What a larger cap changes.

The order in which instances are selected does not depend on the cap, so a larger cap keeps what
a smaller one keeps and adds to it at the end (`selectDiverse_extends`).  This holds of whatever
a function is instantiated from: with the other limits as they are, the reports are the same, and
it is the same scan windows that are no size (`Pool.instantiate_extends`).
-/
import FuzzSynth.Proofs.Instance.Outcome

namespace FuzzSynth

/-- What comes of a function with a larger cap: the same instances, maybe more after them, and
the same report. -/
structure Instantiation.IsExtendedBy (part larger : Instantiation) : Prop where
  instances : part.instances <+: larger.instances
  covered : typesPutIn part.instances ⊆ typesPutIn larger.instances
  report : larger.report = part.report

namespace Instantiation

variable {part larger : Instantiation}

theorem isExtendedBy_of_isPrefix (h : part.instances <+: larger.instances)
    (hreport : larger.report = part.report) : part.IsExtendedBy larger :=
  ⟨h, typesPutIn_subset h.subset, hreport⟩

theorem isExtendedBy_rfl (part : Instantiation) : part.IsExtendedBy part :=
  isExtendedBy_of_isPrefix List.prefix_rfl rfl

end Instantiation

variable {cap larger : Int}

/-- The depth guard comes before the selection, so it refuses the same instances. -/
theorem Signature.instantiateFrom_extends (h : cap ≤ larger) (api : Signature)
    (limits : InstanceLimits) (window : List Substitution) :
    (api.instantiateFrom { limits with maxInstances := cap } window).IsExtendedBy
      (api.instantiateFrom { limits with maxInstances := larger } window) := by
  unfold instantiateFrom
  simp only
  split
  · exact Instantiation.isExtendedBy_rfl _
  · exact Instantiation.isExtendedBy_of_isPrefix (selectItems_isPrefix h id _) rfl

/-- A function is instantiated under the one cap exactly if it is under the other, and then the
larger cap extends what the smaller one gives. -/
theorem Pool.instantiate_extends (h : cap ≤ larger) (pool : Pool) (limits : InstanceLimits)
    (api : Signature) :
    (∃ part more, pool.instantiate { limits with maxInstances := cap } api = .ok part ∧
        pool.instantiate { limits with maxInstances := larger } api = .ok more ∧
        part.IsExtendedBy more) ∨
      api.isGeneric = true ∧ ∃ e, windowSize limits.maxProductScan = .error e ∧
        pool.instantiate { limits with maxInstances := cap } api = .error e ∧
        pool.instantiate { limits with maxInstances := larger } api = .error e := by
  by_cases hgeneric : api.isGeneric = true
  · rw [instantiate, instantiate, if_pos hgeneric, if_pos hgeneric]
    cases hsize : windowSize limits.maxProductScan with
    | error e => exact .inr ⟨hgeneric, e, rfl, rfl, rfl⟩
    | ok size =>
        refine .inl ⟨_, _, rfl, rfl, ?_⟩
        dsimp only
        cases pool.window size api with
        | error u => exact Instantiation.isExtendedBy_rfl _
        | ok window => exact Signature.instantiateFrom_extends h api limits window
  · -- a function without parameters is its one instance, whatever the cap
    rw [instantiate, instantiate, if_neg hgeneric, if_neg hgeneric]
    exact .inl ⟨_, _, rfl, rfl, Instantiation.isExtendedBy_rfl _⟩

/-- A larger cap only extends a selection.  What is selected stands at different places of the
list, as many as the cap allows and the list has; with a larger cap the same places come first,
and so do the same instances of any function. -/
theorem selectDiverse_extends (h : cap ≤ larger) (instances : List Instance) :
    selectDiverse instances cap <+: selectDiverse instances larger ∧
      ((selectDiverse instances cap).length : Int) = min (max cap 0) instances.length ∧
      ((selectedPlaces instances cap).Nodup ∧
        (selectedPlaces instances cap).map (fun place => instances[place]?) =
          (selectDiverse instances cap).map some ∧
        selectedPlaces instances cap <+: selectedPlaces instances larger) ∧
      ∀ (pool : Pool) (limits : InstanceLimits) (api : Signature),
        (∃ part more, pool.instantiate { limits with maxInstances := cap } api = .ok part ∧
            pool.instantiate { limits with maxInstances := larger } api = .ok more ∧
            part.IsExtendedBy more) ∨
          api.isGeneric = true ∧ ∃ e, windowSize limits.maxProductScan = .error e ∧
            pool.instantiate { limits with maxInstances := cap } api = .error e ∧
            pool.instantiate { limits with maxInstances := larger } api = .error e := by
  refine ⟨selectItems_isPrefix h id instances, ?_, ⟨?_, ?_, ?_⟩, ?_⟩
  · rw [length_selectDiverse]
    omega
  · exact nodup_selectedPlaces instances cap
  · exact map_getElem?_selectedPlaces instances cap
  · exact (selectItems_isPrefix h Prod.fst instances.zipIdx).map Prod.snd
  · exact Pool.instantiate_extends h

/-! ### A small case -/

/-- `pair<T, U>(first: T, second: U)`. -/
def pairApi : Signature where
  path := "pair"
  generics := [⟨"T", 0, .empty, "pair"⟩, ⟨"U", 1, .empty, "pair"⟩]
  inputs := [("first", .param "T"), ("second", .param "U")]
  output := .unit

/-- `pair` at two types without bounds. -/
def pairAt (first second : String) : Instance :=
  pairApi.instanceOf
    (.ofLists pairApi.generics [⟨.named first [], .empty⟩, ⟨.named second [], .empty⟩])

/-- Four instances of `pair`, two of which look alike. -/
def pairInstances : List Instance :=
  [pairAt "i32" "i32", pairAt "i32" "u8", pairAt "u8" "i32", pairAt "i32" "u8"]

/-- With room for two the first pair of different types is kept and then its reverse; a cap that
is larger than the list goes on with the others.  So `pair` has two instances with the one cap and
these and seven more with the other. -/
theorem selectDiverse_extends_pairInstances :
    (2 : Int) ≤ 9 ∧
      selectedPlaces pairInstances 2 = [1, 2] ∧ selectedPlaces pairInstances 9 = [1, 2, 0, 3] ∧
      selectDiverse pairInstances 2 <+: selectDiverse pairInstances 9 ∧
      ((selectDiverse pairInstances 2).length : Int) = min (max 2 0) 4 ∧
      ∃ part more, Pool.builtin.instantiate ⟨2, 5, 40⟩ pairApi = .ok part ∧
        Pool.builtin.instantiate ⟨9, 5, 40⟩ pairApi = .ok more ∧
        part.instances.length = 2 ∧ more.instances.length = 9 ∧ part.IsExtendedBy more := by
  have hcap : (2 : Int) ≤ 9 := by decide
  have hsize : windowSize 40 = .ok 40 := by decide
  obtain ⟨hfirst, hlength, -, hinstances⟩ := selectDiverse_extends hcap pairInstances
  refine ⟨hcap, by decide +kernel, by decide +kernel, hfirst, hlength, ?_⟩
  rcases hinstances Pool.builtin ⟨0, 5, 40⟩ pairApi with hextended | ⟨-, e, he, -⟩
  · obtain ⟨part, more, hpart, hmore, hextended⟩ := hextended
    have htwo : ∀ p ∈ (Pool.builtin.instantiate ⟨2, 5, 40⟩ pairApi).toOption,
        p.instances.length = 2 := by decide +kernel
    have hnine : ∀ p ∈ (Pool.builtin.instantiate ⟨9, 5, 40⟩ pairApi).toOption,
        p.instances.length = 9 := by decide +kernel
    refine ⟨part, more, hpart, hmore, htwo part ?_, hnine more ?_, hextended⟩
    · simp [hpart, Except.toOption]
    · simp [hmore, Except.toOption]
  · cases hsize.symm.trans he

end FuzzSynth
