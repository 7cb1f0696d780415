/-
What comes of instantiating a function.

The scan window has to fit a machine word as soon as there is a generic function
(`exists_forall₂_instantiate_iff`).  Otherwise a function has instances, each from a substitution
in the window and so concrete (`isConcrete_of_instantiate`), or it has none and a diagnostic says
why (`exists_diagnostic_of_no_instances`).  All of that is to no avail if a diagnostic cannot be
written (`instantiateEach_eq_ok_iff`).
-/
import FuzzSynth.Proofs.Instance.Concrete
import FuzzSynth.Proofs.Instance.Selection
import FuzzSynth.Proofs.Sequence

namespace FuzzSynth

/-! ## The scan window -/

theorem windowSize_eq_ok_iff {n : Int} {size : Nat} :
    windowSize n = .ok size ↔ (0 ≤ n ∧ n ≤ maxWindow) ∧ size = n.toNat := by
  unfold windowSize
  split
  · next h => simp [h, eq_comm]
  · next h => split <;> simp [h]

/-! ## One function -/

namespace Signature

variable {api : Signature} {limits : InstanceLimits}

/-- The instances made from a window are some of those under its substitutions, each made of
another substitution. -/
theorem instances_instantiateFrom_subperm (api : Signature) (limits : InstanceLimits)
    (window : List Substitution) :
    (api.instantiateFrom limits window).instances.Subperm (window.map api.instanceOf) := by
  unfold instantiateFrom
  simp only
  split
  · exact List.nil_subperm
  · exact (selectItems_subperm id _ _).trans List.filter_sublist.subperm

theorem exists_of_mem_instantiateFrom {window : List Substitution} {m : Instance}
    (h : m ∈ (api.instantiateFrom limits window).instances) : ∃ σ ∈ window, api.instanceOf σ = m :=
  List.mem_map.mp ((instances_instantiateFrom_subperm api limits window).subset h)

theorem length_instantiateFrom_le (api : Signature) (limits : InstanceLimits)
    (window : List Substitution) :
    (api.instantiateFrom limits window).instances.length ≤ window.length := by
  have hle := (instances_instantiateFrom_subperm api limits window).length_le
  rwa [List.length_map] at hle

/-- No more instances are kept than the cap allows. -/
theorem length_instantiateFrom_le_cap (api : Signature) (limits : InstanceLimits)
    (window : List Substitution) :
    ((api.instantiateFrom limits window).instances.length : Int) ≤ max 0 limits.maxInstances := by
  unfold instantiateFrom
  simp only
  split
  · exact Int.le_max_left _ _
  · rw [length_selectDiverse]
    omega

/-- A change of instances that keeps their outputs and what they put in for which parameter is the
same change of the instances that are made from a window. -/
theorem instances_instantiateFrom_map {other : Signature} {f : Instance → Instance}
    {window others : List Substitution}
    (htried : others.map other.instanceOf = (window.map api.instanceOf).map f)
    (houtput : ∀ m, (f m).output = m.output)
    (htypes : ∀ m, (f m).substitution.types = m.substitution.types)
    (hcoverage : ∀ m, (f m).substitution.coverage = m.substitution.coverage) :
    (other.instantiateFrom limits others).instances =
      (api.instantiateFrom limits window).instances.map f := by
  have hdepth : (fun m : Instance => !m.isTooDeep limits.maxTypeDepth) ∘ f =
      fun m => !m.isTooDeep limits.maxTypeDepth := by
    funext m
    simp only [Function.comp_apply, Instance.isTooDeep, houtput]
  rw [instantiateFrom, instantiateFrom]
  simp only [htried, List.filter_map, hdepth, List.isEmpty_map]
  split
  · rfl
  · exact selectDiverse_map htypes hcoverage _ _

/-- If every instance is too deep, that is recorded. -/
theorem report_of_forall_tooDeep {window : List Substitution}
    (hdeep : ∀ σ ∈ window, (api.instanceOf σ).isTooDeep limits.maxTypeDepth = true) :
    depthDiagnostic api.path limits.maxTypeDepth ∈ (api.instantiateFrom limits window).report := by
  have hkept : ((window.map api.instanceOf).filter fun m => !m.isTooDeep limits.maxTypeDepth) = [] := by
    rw [List.filter_eq_nil_iff]
    intro m hm
    obtain ⟨σ, hσ, rfl⟩ := List.mem_map.mp hm
    simp [hdeep σ hσ]
  unfold instantiateFrom
  simp only [hkept, List.isEmpty_nil, if_true]
  exact List.mem_singleton_self _

/-- No instance is made from a window only if all are too deep, and that is recorded. -/
theorem report_instantiateFrom (hcap : 0 < limits.maxInstances) {window : List Substitution}
    (h : (api.instantiateFrom limits window).instances = []) :
    depthDiagnostic api.path limits.maxTypeDepth ∈ (api.instantiateFrom limits window).report := by
  unfold instantiateFrom at h ⊢
  simp only at h ⊢
  split
  · exact List.mem_singleton_self _
  · -- otherwise one is selected, since the cap leaves room for one
    next hkept =>
      rw [if_neg hkept] at h
      have hlength := congrArg List.length h
      simp only [length_selectDiverse, List.length_nil] at hlength
      have hpos := List.length_pos_iff.mpr (fun hnil => hkept (List.isEmpty_iff.mpr hnil))
      omega

end Signature

namespace Pool

variable {pool : Pool} {limits : InstanceLimits} {api : Signature} {part : Instantiation}

theorem resolve_eq_error_iff {param : GenericParam} {u : Unsatisfiable} :
    pool.resolve param = .error u ↔ pool.query param.bounds = [] ∧ u = ⟨param⟩ := by
  unfold resolve
  cases pool.query param.bounds <;> simp [eq_comm]

theorem candidateLists_of_window_error {size : Nat} {u : Unsatisfiable}
    (h : pool.window size api = .error u) : pool.candidateLists api = .error u := by
  unfold window at h
  split at h
  · cases h
  · unfold substitutions at h
    cases hlists : pool.candidateLists api with
    | error u' =>
        rw [hlists] at h
        exact congrArg Except.error (Except.error.inj h)
    | ok lists =>
        rw [hlists] at h
        cases h

/-- What cannot be resolved for a function is one of its parameters. -/
theorem window_eq_error {size : Nat} {u : Unsatisfiable} (h : pool.window size api = .error u) :
    u.param ∈ api.generics := by
  obtain ⟨param, hparam, hresolve⟩ := Ty.exists_of_mapM_error (candidateLists_of_window_error h)
  obtain ⟨-, rfl⟩ := resolve_eq_error_iff.mp hresolve
  exact hparam

/-- What instantiating a generic function gives, by its window. -/
theorem instantiate_generic (hgeneric : api.isGeneric = true)
    (h : pool.instantiate limits api = .ok part) :
    ∃ size, windowSize limits.maxProductScan = .ok size ∧
      ((∃ u, pool.window size api = .error u ∧
          part = ⟨[], [u.diagnostic], [skipEntry api.path u.message]⟩) ∨
        ∃ window, pool.window size api = .ok window ∧ part = api.instantiateFrom limits window) := by
  rw [instantiate, if_pos hgeneric] at h
  obtain ⟨size, hsize, rfl⟩ := Ty.map_eq_ok_iff.mp h
  refine ⟨size, hsize, ?_⟩
  cases hwindow : pool.window size api with
  | error u => exact .inl ⟨u, rfl, rfl⟩
  | ok window => exact .inr ⟨window, rfl, rfl⟩

/-- A function with a parameter that no candidate fits leaves the diagnostic for it. -/
theorem mem_report_of_unsatisfiable {size : Nat} (hsize : windowSize limits.maxProductScan = .ok size)
    {u : Unsatisfiable} (hu : pool.window size api = .error u)
    (h : pool.instantiate limits api = .ok part) : u.diagnostic ∈ part.report := by
  have hgeneric : api.isGeneric = true := by
    have hparam := List.ne_nil_of_mem (window_eq_error hu)
    simpa [Signature.isGeneric] using hparam
  obtain ⟨size', hsize', hpart⟩ := instantiate_generic hgeneric h
  obtain rfl : size' = size := Except.ok.inj (hsize'.symm.trans hsize)
  rcases hpart with ⟨u', hu', rfl⟩ | ⟨window, hwindow, -⟩
  · obtain rfl : u' = u := Except.error.inj (hu'.symm.trans hu)
    exact List.mem_singleton_self _
  · cases hwindow.symm.trans hu

/-- A generic function all of whose instances are too deep leaves the diagnostic for that. -/
theorem mem_report_of_tooDeep (hgeneric : api.isGeneric = true) {size : Nat}
    (hsize : windowSize limits.maxProductScan = .ok size) {window : List Substitution}
    (hwindow : pool.window size api = .ok window)
    (hdeep : ∀ σ ∈ window, (api.instanceOf σ).isTooDeep limits.maxTypeDepth = true)
    (h : pool.instantiate limits api = .ok part) :
    depthDiagnostic api.path limits.maxTypeDepth ∈ part.report := by
  obtain ⟨size', hsize', hpart⟩ := instantiate_generic hgeneric h
  obtain rfl : size' = size := Except.ok.inj (hsize'.symm.trans hsize)
  rcases hpart with ⟨u, hu, -⟩ | ⟨window', hwindow', rfl⟩
  · cases hwindow.symm.trans hu
  · obtain rfl : window' = window := Except.ok.inj (hwindow'.symm.trans hwindow)
    exact Signature.report_of_forall_tooDeep hdeep

/-- A function that is not generic is its one instance. -/
theorem instantiate_plain (hplain : api.isGeneric = false)
    (h : pool.instantiate limits api = .ok part) : part = ⟨[api.instanceOf .empty], [], []⟩ := by
  rw [instantiate, if_neg (by simp [hplain])] at h
  exact (Except.ok.inj h).symm

/-- Every instance is made by a substitution that resolves the parameters. -/
theorem exists_resolves_of_instantiate (h : pool.instantiate limits api = .ok part) :
    ∀ m ∈ part.instances, ∃ σ : Substitution, σ.Resolves pool api.generics ∧ m = api.instanceOf σ := by
  intro m hm
  cases hgeneric : api.isGeneric with
  | true =>
      obtain ⟨size, -, ⟨u, -, rfl⟩ | ⟨window, hwindow, rfl⟩⟩ := instantiate_generic hgeneric h
      · simp at hm
      · obtain ⟨σ, hσ, rfl⟩ := Signature.exists_of_mem_instantiateFrom hm
        exact ⟨σ, resolves_of_mem_window hwindow hσ, rfl⟩
  | false =>
      -- without parameters there is nothing to resolve
      rw [instantiate_plain hgeneric h] at hm
      obtain rfl := List.mem_singleton.mp hm
      have hnone : api.generics = [] := by simpa [Signature.isGeneric] using hgeneric
      exact ⟨.empty, Substitution.resolves_empty pool hnone, rfl⟩

/-- What tells apart the types that substitutions put in tells apart all instances. -/
theorem nodup_map_of_instantiate {β : Type} {f : Instance → β}
    (h : pool.instantiate limits api = .ok part)
    (hf : ∀ {σ τ : Substitution}, σ.Resolves pool api.generics → τ.Resolves pool api.generics →
      f (api.instanceOf σ) = f (api.instanceOf τ) → σ.types = τ.types) :
    (part.instances.map f).Nodup := by
  cases hgeneric : api.isGeneric with
  | false =>
      rw [instantiate_plain hgeneric h]
      exact List.nodup_singleton _
  | true =>
      obtain ⟨size, -, ⟨u, -, rfl⟩ | ⟨window, hwindow, rfl⟩⟩ := instantiate_generic hgeneric h
      · exact List.nodup_nil
      · have htypes := nodup_types_window hwindow
        have htold : ((window.map api.instanceOf).map f).Nodup := by
          rw [List.map_map]
          refine (List.Nodup.of_map _ htypes).map_on fun σ hσ τ hτ heq => ?_
          have hput := hf (resolves_of_mem_window hwindow hσ) (resolves_of_mem_window hwindow hτ)
          exact List.inj_on_of_nodup_map htypes hσ hτ (hput heq)
        obtain ⟨taken, hperm, hsublist⟩ :=
          Signature.instances_instantiateFrom_subperm api limits window
        exact (hperm.map _).nodup_iff.mp (htold.sublist (hsublist.map _))

/-- Every instance of a scoped function is concrete. -/
theorem isConcrete_of_instantiate (hpool : pool.IsConcrete) (hscoped : api.IsScoped)
    (h : pool.instantiate limits api = .ok part) : ∀ m ∈ part.instances, m.IsConcrete := by
  intro m hm
  obtain ⟨σ, hσ, rfl⟩ := exists_resolves_of_instantiate h m hm
  exact hscoped.isConcrete_of_resolves hpool hσ

/-- A function has no more instances than its window has substitutions. -/
theorem length_instances_le (hgeneric : api.isGeneric = true)
    (h : pool.instantiate limits api = .ok part) : (part.instances.length : Int) ≤ maxWindow := by
  obtain ⟨size, hsize, hpart⟩ := instantiate_generic hgeneric h
  obtain ⟨⟨hmin, hmax⟩, rfl⟩ := windowSize_eq_ok_iff.mp hsize
  rcases hpart with ⟨u, -, rfl⟩ | ⟨window, hwindow, rfl⟩
  · exact Int.le_trans hmin hmax
  · have hfrom := Signature.length_instantiateFrom_le api limits window
    have hwindow := length_window_le hwindow
    omega

/-- A generic function has no more instances than the cap allows. -/
theorem length_instances_le_cap (hgeneric : api.isGeneric = true)
    (h : pool.instantiate limits api = .ok part) :
    (part.instances.length : Int) ≤ max 0 limits.maxInstances := by
  obtain ⟨size, -, ⟨u, -, rfl⟩ | ⟨window, -, rfl⟩⟩ := instantiate_generic hgeneric h
  · exact Int.le_max_left _ _
  · exact Signature.length_instantiateFrom_le_cap api limits window

/-- Every instance of a function is declared by it. -/
theorem declaration_of_instantiate (h : pool.instantiate limits api = .ok part) :
    ∀ m ∈ part.instances, m.declaration = api := by
  intro m hm
  obtain ⟨σ, -, rfl⟩ := exists_resolves_of_instantiate h m hm
  rfl

/-- A function without instances leaves a diagnostic that names it. -/
theorem exists_diagnostic_of_no_instances (hcap : 0 < limits.maxInstances)
    (hpath : api.path ≠ "") (howner : ∀ param ∈ api.generics, param.owner = api.path)
    (h : pool.instantiate limits api = .ok part) (hnone : part.instances = []) :
    ∃ d ∈ part.report, d.subject = api.path ∧
      (d.kind = .unsatisfiableBounds ∨ d.kind = .budgetExceeded) := by
  cases hgeneric : api.isGeneric with
  | true =>
      obtain ⟨size, -, ⟨u, hu, rfl⟩ | ⟨window, -, rfl⟩⟩ := instantiate_generic hgeneric h
      · -- the parameter knows the function it belongs to, and names it
        refine ⟨u.diagnostic, List.mem_singleton_self _, ?_, .inl rfl⟩
        have hparam := howner u.param (window_eq_error hu)
        show u.subject = api.path
        rw [Unsatisfiable.subject, hparam, if_neg (by simpa using hpath)]
      · exact ⟨_, Signature.report_instantiateFrom hcap hnone, rfl, .inr rfl⟩
  | false =>
      rw [instantiate_plain hgeneric h] at hnone
      cases hnone

/-! ## All functions -/

theorem exists_instantiate_iff :
    (∃ part, pool.instantiate limits api = .ok part) ↔
      (0 ≤ limits.maxProductScan ∧ limits.maxProductScan ≤ maxWindow) ∨ api.isGeneric = false := by
  cases hgeneric : api.isGeneric with
  | false => simp [instantiate, hgeneric]
  | true =>
      simp only [instantiate, hgeneric, if_true, Ty.map_eq_ok_iff, windowSize_eq_ok_iff]
      simp

theorem instantiate_eq_error_iff {e : WindowError} :
    pool.instantiate limits api = .error e ↔
      api.isGeneric = true ∧ windowSize limits.maxProductScan = .error e := by
  cases hgeneric : api.isGeneric with
  | false => simp [instantiate, hgeneric]
  | true => simp [instantiate, hgeneric, Ty.map_eq_error_iff]

/-- The functions can be instantiated if the scan window fits a machine word, or if none of
them is generic. -/
theorem exists_forall₂_instantiate_iff (pool : Pool) {apis : List Signature} :
    (∃ parts, List.Forall₂ (fun api part => pool.instantiate limits api = .ok part) apis parts) ↔
      (0 ≤ limits.maxProductScan ∧ limits.maxProductScan ≤ maxWindow) ∨
        ∀ api ∈ apis, api.isGeneric = false := by
  constructor
  · rintro ⟨parts, h⟩
    by_cases hwindow : 0 ≤ limits.maxProductScan ∧ limits.maxProductScan ≤ maxWindow
    · exact .inl hwindow
    · -- no generic function was instantiated, so there is none
      refine .inr fun api hapi => ?_
      obtain ⟨part, -, hpart⟩ := Sequence.exists_left_of_forall₂ h.flip hapi
      exact (exists_instantiate_iff.mp ⟨part, hpart⟩).resolve_left hwindow
  · intro h
    have hall : ∀ api ∈ apis, ∃ part, pool.instantiate limits api = .ok part := fun api hapi =>
      exists_instantiate_iff.mpr (h.imp_right fun hplain => hplain api hapi)
    clear h
    induction apis with
    | nil => exact ⟨[], .nil⟩
    | cons api rest ih =>
        obtain ⟨hfirst, hrest⟩ := List.forall_mem_cons.mp hall
        obtain ⟨part, hpart⟩ := hfirst
        obtain ⟨parts, hparts⟩ := ih hrest
        exact ⟨part :: parts, .cons hpart hparts⟩

theorem tryInstantiate_eq_ok_iff : pool.tryInstantiate limits api = .ok part ↔
    pool.instantiate limits api = .ok part ∧ part.report.isWritable = true := by
  unfold tryInstantiate
  cases pool.instantiate limits api with
  | error e => simp
  | ok other =>
      -- a part that cannot be reported is not given
      by_cases hother : other.report.isWritable = true <;> grind

/-- All functions are instantiated if each of them is and what is reported can be written. -/
theorem instantiateEach_eq_ok_iff {apis : List Signature} {parts : List Instantiation} :
    pool.instantiateEach limits apis = .ok parts ↔
      List.Forall₂ (fun api part => pool.instantiate limits api = .ok part) apis parts ∧
        ∀ part ∈ parts, part.report.isWritable = true := by
  have hswap := List.forall₂_and_left (p := fun part : Instantiation => part.report.isWritable = true)
    (R := fun part api => pool.instantiate limits api = .ok part) parts apis
  rw [instantiateEach, Ty.mapM_eq_ok_iff_forall₂]
  simp only [tryInstantiate_eq_ok_iff]
  constructor
  · intro h
    obtain ⟨hwritable, hparts⟩ := hswap.mp (h.flip.imp fun _ _ hpart => hpart.symm)
    exact ⟨hparts.flip, hwritable⟩
  · rintro ⟨hparts, hwritable⟩
    exact (hswap.mpr ⟨hwritable, hparts.flip⟩).flip.imp fun _ _ hpart => hpart.symm

end Pool
end FuzzSynth
