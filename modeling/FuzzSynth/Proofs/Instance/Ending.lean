/-
How the instantiation of a generic function ends.

There are three ways: some parameter cannot be resolved, or every substitution that is tried
gives an output that is too deep, or instances are selected.  `Instantiation.EndsAs` says for
each of them when it is met and what is left then: the instances and the report as wholes.

A function with parameters ends in exactly one of these ways if its scan window fits a machine
word, unless it ends in the second and the limit that is to be reported has too many digits; else
it ends in none (`Pool.exists_ending_iff`).  The parameter that is reported is the first that
cannot be resolved, because parameters are resolved in order
(`Pool.isFirstUnresolved_of_candidateLists`).  The selection takes what is admitted, each
substitution once, and stops only at the cap or when nothing is left.
-/
import FuzzSynth.Proofs.Instance.Outcome

namespace FuzzSynth

/-! ## What is tried -/

/-- The substitutions whose outputs do not nest too deeply. -/
def Signature.admitted (api : Signature) (limits : InstanceLimits) (window : List Substitution) :
    List Substitution :=
  window.filter fun σ => !(api.instanceOf σ).isTooDeep limits.maxTypeDepth

namespace Pool

/-- No type satisfies the bounds of the parameter, and that is so of no parameter before it. -/
structure IsFirstUnresolved (pool : Pool) (api : Signature) (param : GenericParam) : Prop where
  mem : param ∈ api.generics
  query_eq_nil : pool.query param.bounds = []
  first {other : GenericParam} (h : other ∈ api.generics) (hnone : pool.query other.bounds = []) :
    param.position ≤ other.position

/-- The substitutions that are tried: the first ones, as many as are scanned or as there are. -/
def Tries (pool : Pool) (limits : InstanceLimits) (api : Signature) (window : List Substitution) :
    Prop :=
  ∃ count, pool.substitutionCount api = .ok count ∧
    window.length = min limits.maxProductScan.toNat count ∧
    pool.substitutions window.length api = .ok window

/-- Every output that is tried nests too deeply. -/
def AdmitsNothing (pool : Pool) (limits : InstanceLimits) (api : Signature) : Prop :=
  ∃ window, pool.Tries limits api window ∧ api.admitted limits window = []

variable {pool : Pool} {api : Signature} {limits : InstanceLimits}

/-! ## Resolving in order -/

/-- The parameter that stops the resolution is the first that cannot be resolved. -/
theorem isFirstUnresolved_of_candidateLists
    (hpositions : api.generics.map GenericParam.position = List.range api.generics.length)
    {u : Unsatisfiable} (h : pool.candidateLists api = .error u) :
    pool.IsFirstUnresolved api u.param := by
  obtain ⟨before, param, after, hsplit, hparam, hbefore⟩ := Ty.exists_split_of_mapM_error h
  obtain ⟨hnone, rfl⟩ := resolve_eq_error_iff.mp hparam
  -- parameters stand in order of position
  have hpairwise : (api.generics.map GenericParam.position).Pairwise (· < ·) :=
    hpositions ▸ List.pairwise_lt_range
  rw [List.pairwise_map, hsplit, List.pairwise_append, List.pairwise_cons] at hpairwise
  constructor
  case mem =>
    rw [hsplit]
    exact List.mem_append_right before List.mem_cons_self
  case query_eq_nil => exact hnone
  case first =>
    intro other hother hquery
    rw [hsplit] at hother
    rcases List.mem_append.mp hother with hother | hother
    · obtain ⟨options, hoptions⟩ := hbefore other hother
      obtain ⟨hsome, hoptions⟩ := resolve_eq_ok_iff.mp hoptions
      exact absurd (hoptions.symm.trans hquery) hsome
    · rcases List.mem_cons.mp hother with rfl | hother
      · exact Nat.le_refl _
      · exact Nat.le_of_lt (hpairwise.2.1.1 other hother)

/-- If the parameters can be resolved, the first substitutions are tried. -/
theorem tries_of_window {size : Nat} (hsize : limits.maxProductScan.toNat = size) (hpos : size ≠ 0)
    {window : List Substitution} (h : pool.window size api = .ok window) :
    pool.Tries limits api window := by
  rw [Pool.window, if_neg hpos] at h
  obtain ⟨lists, hlists, hwindow⟩ := Ty.map_eq_ok_iff.mp h
  obtain rfl := eq_optionsOf_of_candidateLists hlists
  rw [map_firstChoices_optionsOf] at hwindow
  have hlength : window.length = min size (pool.allSubstitutions api).length := by
    rw [← hwindow, List.length_take]
  refine ⟨(pool.allSubstitutions api).length, ?_, hsize ▸ hlength, ?_⟩
  · rw [substitutionCount, hlists, length_allSubstitutions, List.prod_eq_foldr]
    rfl
  · rw [substitutions, hlists]
    refine congrArg Except.ok ((map_firstChoices_optionsOf _).trans ?_)
    rw [hlength, ← List.take_eq_take_min, hwindow]

end Pool

/-! ## The three ways -/

/-- How the instantiation of a function with parameters ends. -/
inductive Ending where
  /-- A parameter cannot be resolved. -/
  | unresolved
  /-- Every output that is tried nests too deeply. -/
  | tooDeep
  /-- Instances are selected. -/
  | selected
  deriving DecidableEq, Repr

/-- The kinds of the diagnostics that are left. -/
def Ending.kinds : Ending → List DiagnosticKind
  | unresolved => [.unsatisfiableBounds]
  | tooDeep => [.budgetExceeded]
  | selected => []

/-- The instantiation ends like this, for the reason that belongs to it. -/
def Instantiation.EndsAs (part : Instantiation) (pool : Pool) (limits : InstanceLimits)
    (api : Signature) : Ending → Prop
  | .unresolved => ∃ param, pool.IsFirstUnresolved api param ∧
      part.instances = [] ∧ part.report = [(⟨param⟩ : Unsatisfiable).diagnostic]
  | .tooDeep => ∃ window, pool.Tries limits api window ∧ api.admitted limits window = [] ∧
      part.instances = [] ∧ part.report = [depthDiagnostic api.path limits.maxTypeDepth]
  | .selected => ∃ window, pool.Tries limits api window ∧ part.report = [] ∧
      (1 ≤ part.instances.length ∧
        part.instances.length = min limits.maxInstances.toNat (api.admitted limits window).length) ∧
      ∃ chosen, chosen.Nodup ∧ chosen ⊆ api.admitted limits window ∧
        part.instances = chosen.map api.instanceOf

namespace Instantiation

variable {part : Instantiation} {pool : Pool} {limits : InstanceLimits} {api : Signature}

theorem EndsAs.map_kind {ending : Ending} (h : part.EndsAs pool limits api ending) :
    part.report.map Diagnostic.kind = ending.kinds := by
  cases ending with
  | unresolved =>
      obtain ⟨param, -, -, hreport⟩ := h
      rw [hreport]
      rfl
  | tooDeep =>
      obtain ⟨window, -, -, -, hreport⟩ := h
      rw [hreport]
      rfl
  | selected =>
      obtain ⟨window, -, hreport, -⟩ := h
      rw [hreport]
      rfl

/-- The ways to end are told apart by the kinds of what they report. -/
theorem EndsAs.unique {ending other : Ending} (h : part.EndsAs pool limits api ending)
    (hother : part.EndsAs pool limits api other) : ending = other := by
  have hkinds : ending.kinds = other.kinds := h.map_kind.symm.trans hother.map_kind
  cases ending <;> cases other <;> first | rfl | cases hkinds

end Instantiation

namespace Signature

variable {limits : InstanceLimits} {api : Signature} {window : List Substitution}

theorem kept_eq_map_admitted :
    ((window.map api.instanceOf).filter fun m => !m.isTooDeep limits.maxTypeDepth) =
      (api.admitted limits window).map api.instanceOf :=
  List.filter_map ..

/-- Where nothing is admitted, that is what is reported. -/
theorem instantiateFrom_of_eq_nil (h : api.admitted limits window = []) :
    (api.instantiateFrom limits window).instances = [] ∧
      (api.instantiateFrom limits window).report =
        [depthDiagnostic api.path limits.maxTypeDepth] := by
  simp [instantiateFrom, kept_eq_map_admitted, h]

/-- Otherwise the instances are those of the substitutions that are selected. -/
theorem instantiateFrom_of_ne_nil (h : api.admitted limits window ≠ []) :
    (api.instantiateFrom limits window).instances =
        (selectItems api.instanceOf (api.admitted limits window) limits.maxInstances).map
          api.instanceOf ∧
      (api.instantiateFrom limits window).report = [] := by
  have hselected := selectItems_map api.instanceOf id (api.admitted limits window)
    limits.maxInstances
  simp only [id_eq] at hselected
  simp [instantiateFrom, kept_eq_map_admitted, h, selectDiverse, hselected]

/-- What is made from the substitutions that are tried ends in one of the two ways that remain. -/
theorem exists_endsAs_instantiateFrom {pool : Pool} (hcap : 1 ≤ limits.maxInstances)
    (htries : pool.Tries limits api window) (hnodup : window.Nodup) :
    ∃ ending, (api.instantiateFrom limits window).EndsAs pool limits api ending := by
  by_cases h : api.admitted limits window = []
  · exact ⟨.tooDeep, window, htries, h, instantiateFrom_of_eq_nil h⟩
  · obtain ⟨hinstances, hreport⟩ := instantiateFrom_of_ne_nil h
    -- the selection stops at the cap or when all are taken
    have hlength : (api.instantiateFrom limits window).instances.length =
        min limits.maxInstances.toNat (api.admitted limits window).length := by
      rw [hinstances, List.length_map, length_selectItems]
    have hpos := List.length_pos_of_ne_nil h
    -- what is selected are some of those that are admitted, and nothing is admitted twice
    have hsubperm := selectItems_subperm api.instanceOf (api.admitted limits window)
      limits.maxInstances
    have hsubset := hsubperm.subset
    obtain ⟨taken, hperm, hsublist⟩ := hsubperm
    have hchosen := hperm.nodup_iff.mp ((hnodup.filter _).sublist hsublist)
    exact ⟨.selected, window, htries, hreport, ⟨by omega, hlength⟩, _, hchosen, hsubset, hinstances⟩

end Signature

/-! ## What is reported -/

namespace Pool

variable {pool : Pool} {api : Signature} {limits : InstanceLimits} {part : Instantiation}

theorem Tries.unique {window other : List Substitution} (h : pool.Tries limits api window)
    (hother : pool.Tries limits api other) : window = other := by
  obtain ⟨count, hcount, hlength, hwindow⟩ := h
  obtain ⟨count', hcount', hlength', hwindow'⟩ := hother
  obtain rfl : count = count' := Except.ok.inj (hcount.symm.trans hcount')
  rw [hlength] at hwindow
  rw [hlength'] at hwindow'
  exact Except.ok.inj (hwindow.symm.trans hwindow')

/-- Only that every output nests too deeply states a cap, which is the limit on depth. -/
theorem isWritable_report_iff (hgeneric : api.isGeneric = true)
    (hscan : 1 ≤ limits.maxProductScan) (h : pool.instantiate limits api = .ok part) :
    part.report.isWritable = true ↔
      (pool.AdmitsNothing limits api → Text.isWritable limits.maxTypeDepth = true) := by
  obtain ⟨size, hsize, ⟨u, hu, rfl⟩ | ⟨window, hwindow, rfl⟩⟩ := instantiate_generic hgeneric h
  · -- a parameter that cannot be resolved states no cap, and nothing is tried
    refine iff_of_true rfl ?_
    rintro ⟨window, ⟨count, hcount, -⟩, -⟩
    rw [substitutionCount, candidateLists_of_window_error hu] at hcount
    cases hcount
  · obtain ⟨-, rfl⟩ := windowSize_eq_ok_iff.mp hsize
    have htries := tries_of_window rfl (by omega) hwindow
    by_cases hnone : api.admitted limits window = []
    · rw [(Signature.instantiateFrom_of_eq_nil hnone).2]
      have hdeep : pool.AdmitsNothing limits api := ⟨window, htries, hnone⟩
      simp [hdeep, Report.isWritable, Diagnostic.isWritable, depthDiagnostic]
    · rw [(Signature.instantiateFrom_of_ne_nil hnone).2]
      refine iff_of_true rfl ?_
      rintro ⟨other, hother, hempty⟩
      exact absurd (htries.unique hother ▸ hempty) hnone

end Pool

/-- A function with parameters ends in exactly one of the three ways if the scan window fits a
machine word and the limit on depth can be written where it has to be reported, and else in none of
them. -/
theorem Pool.exists_ending_iff {fact : ApiFact} {api : Signature} {pool : Pool}
    {limits : InstanceLimits} (hsignature : fact.signature = .ok api)
    (hgeneric : api.generics ≠ []) (hscan : 1 ≤ limits.maxProductScan)
    (hcap : 1 ≤ limits.maxInstances) :
    (∃ part, pool.tryInstantiate limits api = .ok part ∧
        ∃! ending, part.EndsAs pool limits api ending) ↔
      limits.maxProductScan ≤ maxWindow ∧
        (pool.AdmitsNothing limits api → Text.isWritable limits.maxTypeDepth = true) := by
  have hisGeneric : api.isGeneric = true := by simpa [Signature.isGeneric] using hgeneric
  constructor
  · rintro ⟨part, htry, -⟩
    obtain ⟨hpart, hwritable⟩ := tryInstantiate_eq_ok_iff.mp htry
    refine ⟨?_, (isWritable_report_iff hisGeneric hscan hpart).mp hwritable⟩
    rcases exists_instantiate_iff.mp ⟨part, hpart⟩ with ⟨-, hwindow⟩ | hplain
    · exact hwindow
    · simp [hisGeneric] at hplain
  · rintro ⟨hwindow, hdepth⟩
    obtain ⟨part, hpart⟩ : ∃ part, pool.instantiate limits api = .ok part :=
      exists_instantiate_iff.mpr (.inl ⟨by omega, hwindow⟩)
    have hwritable := (isWritable_report_iff hisGeneric hscan hpart).mpr hdepth
    have htry := tryInstantiate_eq_ok_iff.mpr ⟨hpart, hwritable⟩
    suffices h : ∃ ending, part.EndsAs pool limits api ending by
      obtain ⟨ending, hending⟩ := h
      exact ⟨part, htry, ending, hending, fun other hother => hother.unique hending⟩
    obtain ⟨size, hsize, ⟨u, hu, rfl⟩ | ⟨window, hwindow, rfl⟩⟩ :=
      instantiate_generic hisGeneric hpart
    · have hpositions : api.generics.map GenericParam.position =
          List.range api.generics.length := by
        obtain ⟨inputs, output, -, -, rfl⟩ := ApiFact.signature_eq_ok hsignature
        exact fact.map_position_params
      have hlists := candidateLists_of_window_error hu
      exact ⟨.unresolved, u.param, isFirstUnresolved_of_candidateLists hpositions hlists, rfl, rfl⟩
    · obtain ⟨-, rfl⟩ := windowSize_eq_ok_iff.mp hsize
      exact Signature.exists_endsAs_instantiateFrom hcap (tries_of_window rfl (by omega) hwindow)
        (.of_map _ (nodup_types_window hwindow))

/-! ### A small case -/

/-- The least number that has too many digits to be written. -/
def leastUnwritable : Nat := 10 ^ Text.digitLimit

/-- A limit below zero admits no output. -/
theorem Pool.admitsNothing_of_neg {pool : Pool} {limits : InstanceLimits} {api : Signature}
    {window : List Substitution} (hlimit : limits.maxTypeDepth < 0)
    (htries : pool.Tries limits api window) : pool.AdmitsNothing limits api := by
  refine ⟨window, htries, List.filter_eq_nil_iff.mpr fun σ _ => ?_⟩
  have hdepth : (0 : Int) ≤ (api.instanceOf σ).output.depth := Int.natCast_nonneg _
  simpa [Instance.isTooDeep] using Int.lt_of_lt_of_le hlimit hdepth

/-- With a window of four `entry` ends in one way.  It ends in none with a window of `2 ^ 63`, nor
with a limit on depth that admits nothing and cannot be written. -/
theorem Pool.exists_ending_iff_entry :
    entryFact.signature = .ok entryApi ∧ entryApi.generics ≠ [] ∧
      (∃ part, hashingPool.tryInstantiate ⟨2, 5, 4⟩ entryApi = .ok part ∧
        ∃! ending, part.EndsAs hashingPool ⟨2, 5, 4⟩ entryApi ending) ∧
      (¬ ∃ part, hashingPool.tryInstantiate ⟨2, 5, 9223372036854775808⟩ entryApi = .ok part ∧
        ∃! ending, part.EndsAs hashingPool ⟨2, 5, 9223372036854775808⟩ entryApi ending) ∧
      ¬ ∃ part, hashingPool.tryInstantiate ⟨2, -leastUnwritable, 4⟩ entryApi = .ok part ∧
        ∃! ending, part.EndsAs hashingPool ⟨2, -leastUnwritable, 4⟩ entryApi ending := by
  have hsignature : entryFact.signature = .ok entryApi := by decide +kernel
  have hgeneric : entryApi.generics ≠ [] := by decide
  have hcap : (1 : Int) ≤ 2 := by decide
  have hends (depth scan : Int) (hscan : 1 ≤ scan) :=
    @Pool.exists_ending_iff _ _ hashingPool ⟨2, depth, scan⟩ hsignature hgeneric hscan hcap
  refine ⟨hsignature, hgeneric, ?_, fun h => ?_, fun h => ?_⟩
  · exact (hends 5 4 (by decide)).mpr ⟨by decide, fun _ => by decide +kernel⟩
  · exact absurd ((hends 5 9223372036854775808 (by decide)).mp h).1 (by decide)
  · obtain ⟨-, hdepth⟩ := (hends (-leastUnwritable) 4 (by decide)).mp h
    have hresolved : (hashingPool.window 4 entryApi).toOption.isSome = true := by decide +kernel
    cases hwindow : hashingPool.window 4 entryApi with
    | error u => simp [hwindow, Except.toOption] at hresolved
    | ok window =>
        have htries : hashingPool.Tries ⟨2, -leastUnwritable, 4⟩ entryApi window :=
          Pool.tries_of_window rfl (by decide) hwindow
        have hnothing := Pool.admitsNothing_of_neg (by decide +kernel) htries
        exact absurd (hdepth hnothing) (by decide +kernel)

end FuzzSynth
