/-
When a run gives a result.

A run can fail for two reasons: its scan window does not fit a machine word although a function is
generic, or a diagnostic states a cap that has too many digits to be written.  `HasResult` says that
neither is the case, and `exists_run_iff` that there is a result exactly then.

Which caps are stated depends on the course of the run.  `States` tells it from what each stage
comes to: a function all of whose outputs are too deep, or a state that a search reaches.  Only four
caps of a configuration are ever stated (`States.mem_statedCaps`), so a run has a result if those
can be written and the window fits (`hasResult_of_statedCaps`).
-/
import FuzzSynth.Proofs.Instance.Ending
import FuzzSynth.Proofs.Synthesis.Stages

namespace FuzzSynth

/-- The caps that a diagnostic may state. -/
def Config.statedCaps (config : Config) : List Int :=
  [config.limits.maxTypeDepth, config.settings.maxDepth, config.settings.maxCalls,
    config.settings.maxExpansions]

namespace Synthesis

/-- A run over a surface comes to state a cap in a diagnostic. -/
inductive States (config : Config) (pool : Pool) (surface : Surface) : Int → Prop
  /-- Every output of a function that is tried nests too deeply. -/
  | typeDepth {api : Signature} (hapi : api ∈ surface.apis) (hgeneric : api.isGeneric = true)
      (hnothing : pool.AdmitsNothing config.limits api) :
      States config pool surface config.limits.maxTypeDepth
  /-- The search for the drivers of a target states it. -/
  | search {parts : List Instantiation}
      (hparts : List.Forall₂ (fun api part => pool.instantiate config.limits api = .ok part)
        surface.apis parts)
      {target : Node}
      (htarget : target ∈ targetsAmong config.targets (ofParts config surface parts).graph.nodes)
      {n : Int} (hn : config.settings.States (ofParts config surface parts).graph target n) :
      States config pool surface n

/-- What it takes for a run over a surface to give a result. -/
structure HasResult (config : Config) (pool : Pool) (surface : Surface) : Prop where
  /-- The scan window fits a machine word, or there is nothing to scan for. -/
  window : (config.maxProductScan.value : Int) ≤ maxWindow ∨ surface.genericApis = []
  /-- Every cap that comes to be stated can be written. -/
  caps {n : Int} (hn : States config pool surface n) : Text.isWritable n = true

variable {config : Config} {pool : Pool} {surface : Surface} {parts : List Instantiation}

theorem States.mem_statedCaps {n : Int} (h : States config pool surface n) :
    n ∈ config.statedCaps := by
  cases h with
  | typeDepth => exact List.mem_cons_self
  | search hparts htarget hn => exact List.mem_cons_of_mem _ hn.mem_caps

/-- A run with caps that can be written has a result if its window fits. -/
theorem hasResult_of_statedCaps
    (hwindow : (config.maxProductScan.value : Int) ≤ maxWindow ∨ surface.genericApis = [])
    (hcaps : ∀ n ∈ config.statedCaps, Text.isWritable n = true) : HasResult config pool surface where
  window := hwindow
  caps hn := hcaps _ hn.mem_statedCaps

/-! ## The stages -/

theorem exists_parts_iff (pool : Pool) :
    (∃ parts, List.Forall₂ (fun api part => pool.instantiate config.limits api = .ok part)
        surface.apis parts) ↔
      (config.maxProductScan.value : Int) ≤ maxWindow ∨ surface.genericApis = [] := by
  have hwindow : 0 ≤ config.limits.maxProductScan ∧ config.limits.maxProductScan ≤ maxWindow ↔
      (config.maxProductScan.value : Int) ≤ maxWindow :=
    and_iff_right (Int.natCast_nonneg _)
  have hplain : (∀ api ∈ surface.apis, api.isGeneric = false) ↔ surface.genericApis = [] := by
    simp [Surface.genericApis, List.filter_eq_nil_iff]
  rw [← hwindow, ← hplain, ← Pool.exists_forall₂_instantiate_iff pool]

/-- What came of the functions can be reported if no limit that cannot be written is stated. -/
theorem forall_isWritable_parts_iff
    (hparts : List.Forall₂ (fun api part => pool.instantiate config.limits api = .ok part)
      surface.apis parts) :
    (∀ part ∈ parts, part.report.isWritable = true) ↔
      ∀ api ∈ surface.apis, api.isGeneric = true → pool.AdmitsNothing config.limits api →
        Text.isWritable config.limits.maxTypeDepth = true := by
  have hscan : 1 ≤ config.limits.maxProductScan := Int.ofNat_le.mpr config.maxProductScan.pos
  constructor
  · intro h api hapi hgeneric
    obtain ⟨part, hpart, hinstantiate⟩ := Sequence.exists_left_of_forall₂ hparts.flip hapi
    exact (Pool.isWritable_report_iff hgeneric hscan hinstantiate).mp (h part hpart)
  · intro h part hpart
    obtain ⟨api, hapi, hinstantiate⟩ := Sequence.exists_left_of_forall₂ hparts hpart
    cases hgeneric : api.isGeneric with
    | false =>
        -- a function that is not generic leaves no diagnostic
        rw [Pool.instantiate_plain hgeneric hinstantiate]
        rfl
    | true => exact (Pool.isWritable_report_iff hgeneric hscan hinstantiate).mpr (h api hapi hgeneric)

/-- What the searches found can be reported if every cap that they state can be written. -/
theorem canReport_ofParts_iff : (ofParts config surface parts).canReport = true ↔
    ∀ target ∈ targetsAmong config.targets (ofParts config surface parts).graph.nodes,
      ∀ n, config.settings.States (ofParts config surface parts).graph target n →
        Text.isWritable n = true := by
  have houtcomes : (ofParts config surface parts).outcomes =
      (targetsAmong config.targets (ofParts config surface parts).graph.nodes).map
        (config.settings.search (ofParts config surface parts).graph) := rfl
  simp only [canReport, houtcomes, List.all_map, List.all_eq_true, Function.comp_apply,
    Report.isWritable_iff, SearchSettings.states_iff]
  exact forall₂_congr fun target _ => ⟨fun h n ⟨d, hd, hn⟩ => h d hd n hn,
    fun h d hd n hn => h n ⟨d, hd, hn⟩⟩

/-! ## The result -/

/-- There is a result exactly if the scan window fits a machine word or no function is generic, and
every cap that comes to be stated can be written. -/
theorem exists_run_iff (config : Config) (pool : Pool) (surface : Surface) :
    (∃ s, run config pool surface = .ok s) ↔ HasResult config pool surface := by
  simp only [run_eq_ok_iff, Pool.instantiateEach_eq_ok_iff]
  constructor
  · rintro ⟨s, parts, ⟨hparts, hwritable⟩, rfl, hreport⟩
    refine ⟨(exists_parts_iff pool).mp ⟨parts, hparts⟩, fun hn => ?_⟩
    cases hn with
    | typeDepth hapi hgeneric hnothing =>
        exact (forall_isWritable_parts_iff hparts).mp hwritable _ hapi hgeneric hnothing
    | search hparts' htarget hn =>
        -- what comes of the functions is determined
        have hunique : Relator.RightUnique
            fun api part => pool.instantiate config.limits api = .ok part :=
          fun _ _ _ h h' => Except.ok.inj (h.symm.trans h')
        obtain rfl := List.right_unique_forall₂' hunique hparts hparts'
        exact canReport_ofParts_iff.mp hreport _ htarget _ hn
  · rintro ⟨hwindow, hcaps⟩
    obtain ⟨parts, hparts⟩ := (exists_parts_iff pool).mpr hwindow
    refine ⟨_, parts, ⟨hparts, ?_⟩, rfl, ?_⟩
    · exact (forall_isWritable_parts_iff hparts).mpr fun api hapi hgeneric hnothing =>
        hcaps (.typeDepth hapi hgeneric hnothing)
    · exact canReport_ofParts_iff.mpr fun target htarget n hn => hcaps (.search hparts htarget hn)

/-- With the caps that are given every run has a result. -/
theorem exists_run_default (pool : Pool) (surface : Surface) : ∃ s, run {} pool surface = .ok s :=
  (exists_run_iff {} pool surface).mpr
    (hasResult_of_statedCaps (.inl (by decide)) (by decide +kernel))

end Synthesis
end FuzzSynth
