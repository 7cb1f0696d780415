/-
The counters of a run.

Instances of generic functions are not counted as such.  Their number is that of all instances, less
the functions that are not generic.  This is right because each of those has one instance, and what
was rejected before counts neither as a function nor as an instance (`Ran.countP_isGeneric`).  A
generic function that has instances has at least one and at most as many as the cap allows, so the
number lies between that of these functions and that many times the cap.

The other counters are read off the results: every driver counts with all its seeds, every
diagnostic under its one kind (`Report.sum_counts`), and every target with no more drivers than the
cap allows.  `CountersAgree` puts this together.
-/
import FuzzSynth.Proofs.Search.Refusal
import FuzzSynth.Proofs.Synthesis.Keys

namespace FuzzSynth

namespace Sequence

/-- Lists that are not empty have an element each. -/
theorem countP_le_total {α : Type} (xss : List (List α)) :
    (xss.countP fun xs => !xs.isEmpty) ≤ total (xss.map List.length) := by
  induction xss with
  | nil => exact Nat.le_refl 0
  | cons xs xss ih =>
      rw [List.map_cons, total_cons, List.countP_cons]
      cases xs with
      | nil => simpa using ih
      | cons x xs =>
          simp only [List.isEmpty_cons, Bool.not_false, if_true, List.length_cons]
          omega

end Sequence

/-- Each diagnostic counts under its kind. -/
theorem Report.sum_counts (report : Report) :
    (report.counts.map Prod.snd).sum = report.length := by
  have hkinds : DiagnosticKind.all.Nodup := by decide
  rw [counts, List.map_map]
  exact Sequence.sum_tally hkinds fun d _ => DiagnosticKind.mem_all d.kind

namespace Synthesis

variable {config : Config} {pool : Pool} {surface : Surface} {s : Synthesis}

/-! ## Instances of generic functions -/

/-- The instances that generic functions declare are those that came of them. -/
theorem countP_isGeneric_flatMap {apis : List Signature} {parts : List Instantiation}
    (h : List.Forall₂ (fun api part => ∀ m ∈ part.instances, m.declaration = api) apis parts) :
    (parts.flatMap Instantiation.instances).countP (fun m => m.declaration.isGeneric) =
      Sequence.total ((((apis.zip parts).filter fun entry => entry.1.isGeneric).map
        fun entry => entry.2.instances).map List.length) := by
  induction h with
  | nil => rfl
  | @cons api part apis parts hfirst _ ih =>
      rw [List.flatMap_cons, List.countP_append, ih, List.zip_cons_cons, List.filter_cons]
      cases hgeneric : api.isGeneric with
      | true =>
          have hall : part.instances.countP (fun m => m.declaration.isGeneric) =
              part.instances.length :=
            List.countP_eq_length.mpr fun m hm => (hfirst m hm).symm ▸ hgeneric
          rw [hall]
          rfl
      | false =>
          have hnone : part.instances.countP (fun m => m.declaration.isGeneric) = 0 :=
            List.countP_eq_zero.mpr fun m hm => by simp [hfirst m hm, hgeneric]
          rw [hnone, Nat.zero_add]
          rfl

namespace Ran

/-- The generic instances of a run are those that came of its generic functions. -/
theorem countP_isGeneric (h : Ran config pool surface s) :
    s.instances.countP (fun m => m.declaration.isGeneric) =
      Sequence.total (s.genericParts.map List.length) := by
  have hdeclared := h.parts.imp fun api part hpart => Pool.declaration_of_instantiate hpart
  rw [h.instances_eq, countP_isGeneric_flatMap hdeclared, genericParts, h.surface_eq]

/-- No generic function has more instances than the cap allows. -/
theorem length_le_of_mem_genericParts (h : Ran config pool surface s) :
    ∀ part ∈ s.genericParts, part.length ≤ config.maxInstances.value := by
  intro instances hinstances
  obtain ⟨api, part, hgeneric, hpart, rfl⟩ := h.exists_api_of_mem_genericParts hinstances
  have hle := Pool.length_instances_le_cap hgeneric hpart
  have hcap : config.limits.maxInstances = config.maxInstances.value := rfl
  omega

/-- No target has more drivers than the cap allows. -/
theorem length_drivers_le (h : Ran config pool surface s) :
    s.drivers.length ≤ s.outcomes.length * config.maxDrivers.value := by
  have hcap : config.settings.maxDrivers = config.maxDrivers.value := rfl
  have hall : ∀ n ∈ s.outcomes.map fun outcome => outcome.drivers.length,
      n ≤ config.maxDrivers.value := by
    intro n hn
    obtain ⟨outcome, houtcome, rfl⟩ := List.mem_map.mp hn
    rw [h.outcomes_eq] at houtcome
    obtain ⟨target, -, rfl⟩ := List.mem_map.mp houtcome
    have hle := config.settings.length_accepted_le s.graph target
    rw [config.settings.length_drivers s.graph target]
    omega
  have hsum := List.sum_le_card_nsmul _ _ hall
  rw [drivers, List.length_flatMap]
  rwa [List.length_map, smul_eq_mul] at hsum

end Ran

/-! ## All counters -/

theorem map_snd_diagnostics (s : Synthesis) :
    s.statistics.diagnostics.map Prod.snd = (s.report.counts.map Prod.snd).map Nat.cast := by
  rw [statistics, List.map_map, List.map_map]
  rfl

/-- The counters of a run agree with what it gave. -/
structure CountersAgree (config : Config) (s : Synthesis) : Prop where
  monoInstances : s.statistics.monoInstances = s.instances.length
  /-- One instance taken off for each function that is not generic, those of the others are left. -/
  genericInstances : s.statistics.monoInstances -
      (s.statistics.functions - s.statistics.genericFunctions) =
    s.instances.countP fun m => m.declaration.isGeneric
  genericInstances_nonneg : 0 ≤ s.statistics.genericInstances
  /-- The average is at least one, and at most the cap. -/
  le_genericInstances : s.statistics.monomorphizedFunctions ≤ s.statistics.genericInstances
  genericInstances_le : s.statistics.genericInstances ≤
    s.statistics.monomorphizedFunctions * config.maxInstances.value
  seedPoints : s.statistics.seedPoints = (s.drivers.map fun d => d.seeds.length).sum
  diagnostics : (s.statistics.diagnostics.map Prod.snd).sum = s.report.length
  drivers_le : s.statistics.drivers ≤ s.statistics.targets * config.maxDrivers.value

/-- The counters of a run agree with what it gave, whatever the pool, the functions and the
configuration are. -/
theorem countersAgree_of_run (hrun : run config pool surface = .ok s) : s.CountersAgree config := by
  have h := ran_of_run hrun
  have hgeneric := h.genericInstances_eq
  have hlower := Sequence.countP_le_total s.genericParts
  have hupper := Sequence.total_length_le h.length_le_of_mem_genericParts
  constructor
  case monoInstances =>
    show ((Sequence.total (s.parts.map fun part => part.instances.length) : Nat) : Int) = _
    rw [h.instances_eq, List.length_flatMap, Sequence.total_eq_sum]
  case genericInstances =>
    rw [h.countP_isGeneric]
    exact hgeneric
  case genericInstances_nonneg =>
    rw [hgeneric]
    exact Int.natCast_nonneg _
  case le_genericInstances =>
    rw [hgeneric]
    exact Int.ofNat_le.mpr hlower
  case genericInstances_le =>
    show _ ≤ ((s.genericParts.countP fun part => !part.isEmpty : Nat) : Int) * _
    rw [hgeneric]
    exact_mod_cast hupper
  case seedPoints =>
    show ((Sequence.total (s.drivers.map fun d => d.seeds.length) : Nat) : Int) = _
    rw [Sequence.total_eq_sum]
  case diagnostics =>
    rw [s.map_snd_diagnostics, ← Nat.cast_list_sum, s.report.sum_counts]
  case drivers_le =>
    show ((s.drivers.length : Nat) : Int) ≤ ((s.outcomes.length : Nat) : Int) * _
    exact_mod_cast h.length_drivers_le

/-- Of the four instances of the library three are of its generic function. -/
theorem countersAgree_of_run_pairDocument :
    ∃ s, run {} (poolOf pairDocument) (.ofDocument pairDocument) = .ok s ∧
      s.statistics.monoInstances = 4 ∧ s.statistics.genericInstances = 3 ∧
      s.CountersAgree {} := by
  obtain ⟨s, hs⟩ := exists_run_default (poolOf pairDocument) (.ofDocument pairDocument)
  have hcounted : (run {} (poolOf pairDocument) (.ofDocument pairDocument)).toOption.map
      (fun s => (s.statistics.monoInstances, s.statistics.genericInstances)) = some (4, 3) := by
    decide +kernel
  rw [hs] at hcounted
  obtain ⟨hinstances, hgeneric⟩ := Prod.mk.inj (Option.some.inj hcounted)
  exact ⟨s, hs, hinstances, hgeneric, countersAgree_of_run hs⟩

end Synthesis
end FuzzSynth
