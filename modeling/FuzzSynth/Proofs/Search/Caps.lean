/-
What larger caps on drivers and steps change.

Neither cap has a say in what a step does: they only say when there are no more steps.  So a search
comes through all states that it comes through with smaller caps (`Reaches.mono`), and goes on from
the last of them.  Nothing that it has accepted or reported is taken back, so it finds and reports
more behind what it finds and reports with smaller caps, except for the record that the steps are
used up (`capped_search_extends`).  Where there is no such record, a larger number of steps changes
nothing (`search_withSteps_eq`).

The producers of an input may stand in another order once another driver is accepted.  That does no
harm, since the drivers accepted so far are the same at every step that both searches take.
-/
import FuzzSynth.Proofs.Search.Termination

namespace FuzzSynth

/-! ## Reports without their last record -/

/-- The report without its last record, if that is the given one. -/
def Report.withoutFinal (d : Diagnostic) (report : Report) : Report :=
  if report.getLast? = some d then report.dropLast else report

namespace Report

variable {d : Diagnostic} {report : Report}

theorem withoutFinal_of_not_mem (h : d ∉ report) : report.withoutFinal d = report :=
  if_neg fun hlast => h (List.mem_of_getLast? hlast)

theorem withoutFinal_concat : Report.withoutFinal d (report ++ [d]) = report := by
  rw [withoutFinal, if_pos List.getLast?_concat, List.dropLast_concat]

end Report

namespace SearchSettings

variable {settings : SearchSettings} {graph : Graph} {target : Node} {s s' : SearchState}
  {drivers moreDrivers steps moreSteps : Int}

/-- What a search reports before it ends. -/
def reportOfSteps (settings : SearchSettings) (graph : Graph) (target : Node) : Report :=
  (settings.search graph target).report.withoutFinal
    (exhaustedDiagnostic target settings.maxExpansions)

/-- A search that ends in a state has reported there what it reports before it ends. -/
theorem reportOfSteps_eq (hs : Reaches settings graph target s)
    (hfinal : settings.final graph target = settings.conclude target s) :
    settings.reportOfSteps graph target = s.report.toList := by
  have hnone := hs.exhausted_not_mem settings.maxExpansions
  rw [reportOfSteps, report_search, hfinal, conclude]
  split
  · exact Report.withoutFinal_of_not_mem hnone
  · rw [SearchState.record, Array.toList_push, Report.withoutFinal_concat]

/-- A search that does not report that the steps are used up ends by itself. -/
theorem isSettled_of_not_exhausted
    (hfinal : settings.final graph target = settings.conclude target s)
    (h : exhaustedDiagnostic target settings.maxExpansions ∉
      (settings.search graph target).report) :
    settings.IsSettled s := by
  by_contra hopen
  have hconclude : settings.conclude target s =
      s.record (exhaustedDiagnostic target settings.maxExpansions) := if_neg hopen
  refine h ?_
  rw [report_search, hfinal, hconclude, SearchState.record, Array.toList_push]
  exact List.mem_append_right _ (List.mem_singleton_self _)

/-- A search that ends by itself reaches the state that it ends in. -/
theorem reaches_final (h : settings.IsSettled (settings.final graph target)) :
    Reaches settings graph target (settings.final graph target) := by
  obtain ⟨last, hlast, -, hfinal⟩ := exists_reaches_final settings graph target
  have hover : settings.IsSettled last := by
    rw [hfinal, IsSettled, hasEnough, conclude_stack, conclude_accepted] at h
    exact h
  have hconclude : settings.conclude target last = last := if_pos hover
  rw [hfinal, hconclude]
  exact hlast

/-! ## The same steps -/

/-- The settings with another cap on the number of drivers. -/
def withDrivers (settings : SearchSettings) (drivers : Int) : SearchSettings :=
  { settings with maxDrivers := drivers }

/-- The settings with other caps on the numbers of drivers and steps. -/
def capped (settings : SearchSettings) (drivers steps : Int) : SearchSettings :=
  (settings.withDrivers drivers).withSteps steps

section Larger

variable (hdrivers : drivers ≤ moreDrivers) (hsteps : steps ≤ moreSteps)
include hdrivers hsteps

theorem MayStep.mono (h : (settings.capped drivers steps).MayStep s) :
    (settings.capped moreDrivers moreSteps).MayStep s := by
  obtain ⟨henough, hleft⟩ := h
  have hfew : ¬ drivers ≤ s.accepted.size := of_decide_eq_false henough
  have hleft : s.expansions < steps.toNat := hleft
  constructor
  · show decide (moreDrivers ≤ s.accepted.size) = false
    rw [decide_eq_false_iff_not]
    omega
  · show s.expansions < moreSteps.toNat
    omega

/-- A step does not depend on the caps, apart from being allowed. -/
theorem Step.mono (h : Step (settings.capped drivers steps) graph target s s') :
    Step (settings.capped moreDrivers moreSteps) graph target s s' := by
  cases h with
  | refuse hgo hstack hpending hseeds =>
      exact .refuse (hgo.mono hdrivers hsteps) hstack hpending hseeds
  | accept hgo hstack hpending hseeds =>
      exact .accept (hgo.mono hdrivers hsteps) hstack hpending hseeds
  | grow hgo hstack hpending hexpand =>
      exact .grow (hgo.mono hdrivers hsteps) hstack hpending hexpand
  | reject hgo hstack hpending hexpand =>
      exact .reject (hgo.mono hdrivers hsteps) hstack hpending hexpand

theorem Reaches.mono (h : Reaches (settings.capped drivers steps) graph target s) :
    Reaches (settings.capped moreDrivers moreSteps) graph target s := by
  induction h with
  | start => exact .start
  | step _ hstep ih => exact ih.step (hstep.mono hdrivers hsteps)

/-- With larger caps a search accepts and reports what it does with smaller ones, and then goes
on. -/
theorem capped_search_extends (settings : SearchSettings) (graph : Graph) (target : Node) :
    ((settings.capped drivers steps).search graph target).drivers <+:
        ((settings.capped moreDrivers moreSteps).search graph target).drivers ∧
      (settings.capped drivers steps).reportOfSteps graph target <+:
        ((settings.capped moreDrivers moreSteps).search graph target).report := by
  obtain ⟨last, hlast, -, hfinal⟩ :=
    exists_reaches_final (settings.capped drivers steps) graph target
  have hrest := loop_of_reaches (hlast.mono hdrivers hsteps)
  constructor
  · have haccepted : ((settings.capped drivers steps).search graph target).accepted <+:
        ((settings.capped moreDrivers moreSteps).search graph target).accepted := by
      rw [accepted_search, accepted_search, hfinal, conclude_accepted, hrest]
      exact accepted_prefix_loop _ last
    exact haccepted.filterMap _
  · rw [reportOfSteps_eq hlast hfinal, report_search, hrest]
    exact report_prefix_loop _ last

end Larger

/-- A search that does not report that the steps are used up is the same with more steps. -/
theorem search_withSteps_eq (hsteps : steps ≤ moreSteps)
    (h : exhaustedDiagnostic target steps ∉
      ((settings.withSteps steps).search graph target).report) :
    (settings.withSteps steps).search graph target =
      (settings.withSteps moreSteps).search graph target := by
  obtain ⟨last, hlast, -, hfinal⟩ := exists_reaches_final (settings.withSteps steps) graph target
  have hover : (settings.withSteps steps).IsSettled last := isSettled_of_not_exhausted hfinal h
  have hconclude : (settings.withSteps steps).conclude target last = last := if_pos hover
  have hmore : (settings.withSteps moreSteps).IsSettled last := hover
  have hreaches : Reaches (settings.withSteps moreSteps) graph target last :=
    hlast.mono (Int.le_refl settings.maxDrivers) hsteps
  refine search_eq_of_final_eq ?_
  rw [hfinal, hconclude, loop_of_reaches hreaches, hmore.loop_eq]

/-- A smaller cap on drivers or on steps only cuts a search short: what it finds and reports until
then comes first with the larger cap, and if it was not cut short by the number of steps, then more
of them change nothing.  What is compared are outcomes: a run that has none, because its report
states a cap that is too long to be written (`Report.isWritable`), is left out. -/
theorem search_truncated {n m : Int} (hle : n ≤ m) (settings : SearchSettings) (graph : Graph)
    (target : Node) :
    (((settings.withDrivers n).search graph target).drivers <+:
        ((settings.withDrivers m).search graph target).drivers ∧
      (settings.withDrivers n).reportOfSteps graph target <+:
        ((settings.withDrivers m).search graph target).report) ∧
    (((settings.withSteps n).search graph target).drivers <+:
        ((settings.withSteps m).search graph target).drivers ∧
      (settings.withSteps n).reportOfSteps graph target <+:
        ((settings.withSteps m).search graph target).report) ∧
    (exhaustedDiagnostic target n ∉ ((settings.withSteps n).search graph target).report →
      (settings.withSteps n).search graph target = (settings.withSteps m).search graph target) := by
  refine ⟨?_, ?_, search_withSteps_eq hle⟩
  · exact capped_search_extends hle (Int.le_refl settings.maxExpansions) settings graph target
  · exact capped_search_extends (Int.le_refl settings.maxDrivers) hle settings graph target

/-! ### A small case -/

/-- A function that can take what it gives, next to one that takes nothing. -/
def copyGraph : Graph := Graph.build ⟨true, true⟩ [makeWidget, copyWidget]

/-- Three levels of calls below the target. -/
def copySettings : SearchSettings := ⟨3, 10, 4, 8, 100, .diversity, false, false⟩

/-- Seven steps are enough for the three drivers, and three are not. -/
theorem search_truncated_copyWidget :
    (3 : Int) ≤ 7 ∧ (7 : Int) ≤ 9 ∧
      ((copySettings.withSteps 3).search copyGraph ⟨1, copyWidget⟩).drivers.length = 1 ∧
      ((copySettings.withSteps 7).search copyGraph ⟨1, copyWidget⟩).drivers.length = 3 ∧
      ((copySettings.withSteps 3).search copyGraph ⟨1, copyWidget⟩).drivers <+:
        ((copySettings.withSteps 7).search copyGraph ⟨1, copyWidget⟩).drivers ∧
      (copySettings.withSteps 7).search copyGraph ⟨1, copyWidget⟩ =
        (copySettings.withSteps 9).search copyGraph ⟨1, copyWidget⟩ := by
  have hfew : (3 : Int) ≤ 7 := by decide
  have hmany : (7 : Int) ≤ 9 := by decide
  obtain ⟨-, ⟨hfirst, -⟩, -⟩ := search_truncated hfew copySettings copyGraph ⟨1, copyWidget⟩
  obtain ⟨-, -, hsame⟩ := search_truncated hmany copySettings copyGraph ⟨1, copyWidget⟩
  exact ⟨hfew, hmany, by decide +kernel, by decide +kernel, hfirst, hsame (by decide +kernel)⟩

end SearchSettings
end FuzzSynth
