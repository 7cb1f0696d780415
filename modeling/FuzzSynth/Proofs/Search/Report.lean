/-
What a search reports.

Every step that drops a branch leaves a diagnostic, and what was reported stays: the run
from any state that a search reaches is the rest of that search (`loop_of_reaches`), and
reports only get longer.  So a target never comes out of a search without a trace: there is
a driver for it, or a diagnostic that names it (`exists_driver_or_diagnostic`).  The
invariant is that a branch waits, or one was accepted, or something was reported.

`States` says which caps a search comes to state in its diagnostics, in terms of the states that
it reaches (`states_iff`).
-/
import FuzzSynth.Proofs.Search.Finish

namespace FuzzSynth
namespace SearchSettings

variable {settings : SearchSettings} {graph : Graph} {target : Node} {s s' : SearchState}
  {id : Nat} {b : Branch} {item : Pending} {later : List Pending}

/-! ## The rest of a run -/

/-- A step is what looking at the branch on top gives. -/
theorem Step.exists_visit (h : Step settings graph target s s') :
    ∃ id b rest, settings.MayStep s ∧ s.stack = (id, b) :: rest ∧
      s' = settings.visit graph target id b (s.popTo rest) := by
  cases h with
  | @refuse id b rest hgo hstack hpending hseeds =>
      refine ⟨id, b, rest, hgo, hstack, ?_⟩
      simp [visit, finish, hpending, hseeds.1, hseeds.2]
  | @accept id b rest hgo hstack hpending hseeds =>
      refine ⟨id, b, rest, hgo, hstack, ?_⟩
      -- the branch is kept, for it has a seed or needs none
      have hkeep : ¬ (settings.requireSeed && b.seeds.isEmpty) = true := by
        intro hnone
        obtain ⟨hrequire, hempty⟩ := Bool.and_eq_true_iff.mp hnone
        exact hseeds hrequire (List.isEmpty_iff.mp hempty)
      simp only [visit, finish, hpending, if_neg hkeep]
      rfl
  | @grow id b rest item later children hgo hstack hpending hexpand =>
      refine ⟨id, b, rest, hgo, hstack, ?_⟩
      have hexpand : settings.expand graph (s.popTo rest).usage id b item later = .ok children :=
        hexpand
      simp [visit, hpending, hexpand]
  | @reject id b rest item later d hgo hstack hpending hexpand =>
      refine ⟨id, b, rest, hgo, hstack, ?_⟩
      have hexpand : settings.expand graph (s.popTo rest).usage id b item later = .error d :=
        hexpand
      simp [visit, hpending, hexpand]

/-- The loop takes the step that there is. -/
theorem loop_of_step (h : Step settings graph target s s') (budget : Nat) :
    settings.loop graph target (budget + 1) s = settings.loop graph target budget s' := by
  obtain ⟨id, b, rest, hgo, hstack, rfl⟩ := h.exists_visit
  rw [loop, hstack]
  simp only [hgo.1]
  rfl

/-- A search goes on from each state that it reaches. -/
theorem loop_of_reaches (h : Reaches settings graph target s) :
    settings.final graph target =
      settings.loop graph target (settings.maxExpansions.toNat - s.expansions) s := by
  induction h with
  | start => rfl
  | @step s s' hs hstep ih =>
      -- the step takes one of the steps that are left
      obtain ⟨_, _, _, hgo, -⟩ := hstep.exists_visit
      have hbudget : settings.maxExpansions.toNat - s.expansions =
          settings.maxExpansions.toNat - s'.expansions + 1 := by
        rw [hstep.expansions_eq]
        have := hgo.2
        omega
      rw [ih, hbudget, loop_of_step hstep]

/-! ## What a run has stays -/

/-- A list of the state that looking at a branch and recording only make longer is only made longer
by the loop. -/
theorem prefix_loop {α : Type} {part : SearchState → List α}
    (hpop : ∀ rest s, part s <+: part (s.popTo rest))
    (hvisit : ∀ id b s, part s <+: part (settings.visit graph target id b s))
    (hrecord : ∀ d s, part s <+: part (s.record d)) (budget : Nat) (s : SearchState) :
    part s <+: part (settings.loop graph target budget s) := by
  induction budget generalizing s with
  | zero =>
      unfold loop
      split
      · exact List.prefix_rfl
      · split
        · exact List.prefix_rfl
        · exact hrecord _ s
  | succ budget ih =>
      unfold loop
      split
      · exact List.prefix_rfl
      · next id b rest hstack =>
          split
          · exact List.prefix_rfl
          · exact ((hpop rest s).trans (hvisit id b _)).trans (ih _)

theorem report_prefix_record (d : Diagnostic) (s : SearchState) :
    s.report.toList <+: (s.record d).report.toList :=
  ⟨[d], (Array.toList_push ..).symm⟩

theorem report_prefix_visit (s : SearchState) :
    s.report.toList <+: (settings.visit graph target id b s).report.toList := by
  unfold visit
  split
  · unfold finish
    split
    · exact report_prefix_record _ s
    · exact List.prefix_rfl
  · split
    · simp
    · exact report_prefix_record _ s

/-- What the loop starts with in its report stays there. -/
theorem report_prefix_loop (budget : Nat) (s : SearchState) :
    s.report.toList <+: (settings.loop graph target budget s).report.toList :=
  prefix_loop (fun _ _ => List.prefix_rfl) (fun _ _ => report_prefix_visit)
    (fun d s => report_prefix_record d s) budget s

theorem accepted_prefix_visit (s : SearchState) :
    s.accepted.toList <+: (settings.visit graph target id b s).accepted.toList := by
  unfold visit
  split
  · unfold finish
    split
    · exact List.prefix_rfl
    · exact ⟨[b], (Array.toList_push ..).symm⟩
  · split
    · simp
    · exact List.prefix_rfl

/-- What was accepted before the loop comes first of what is accepted in the end. -/
theorem accepted_prefix_loop (budget : Nat) (s : SearchState) :
    s.accepted.toList <+: (settings.loop graph target budget s).accepted.toList :=
  prefix_loop (fun _ _ => List.prefix_rfl) (fun _ _ => accepted_prefix_visit)
    (fun _ _ => List.prefix_rfl) budget s

/-- What is reported along a search is in its report. -/
theorem Reaches.mem_report (h : Reaches settings graph target s) {d : Diagnostic}
    (hd : d ∈ s.report.toList) : d ∈ (settings.search graph target).report := by
  rw [report_search, loop_of_reaches h]
  exact (report_prefix_loop _ s).subset hd

/-! ## What is reported -/

/-- A branch that is a dead end leaves its diagnostic in the report. -/
theorem Reaches.mem_report_of_deadEnd {rest : List (Nat × Branch)} {d : DeadEnd}
    (h : Reaches settings graph target s) (hgo : settings.MayStep s)
    (hstack : s.stack = (id, b) :: rest) (hpending : b.pending = item :: later)
    (hexpand : settings.expand graph s.usage id b item later = .error d) :
    d.diagnostic target ∈ (settings.search graph target).report := by
  refine (h.step (.reject hgo hstack hpending hexpand)).mem_report ?_
  exact Array.toList_push .. ▸ List.mem_append_right _ (List.mem_singleton_self _)

/-- A finished branch that lacks a seed leaves its diagnostic in the report. -/
theorem Reaches.mem_report_of_noSeed {rest : List (Nat × Branch)} (h : Reaches settings graph target s)
    (hgo : settings.MayStep s) (hstack : s.stack = (id, b) :: rest) (hpending : b.pending = [])
    (hseeds : settings.requireSeed = true ∧ b.seeds = []) :
    noSeedDiagnostic target ∈ (settings.search graph target).report := by
  refine (h.step (.refuse hgo hstack hpending hseeds)).mem_report ?_
  exact Array.toList_push .. ▸ List.mem_append_right _ (List.mem_singleton_self _)

/-- Every diagnostic of a search names its target. -/
theorem Reaches.forall_subject (h : Reaches settings graph target s) :
    ∀ d ∈ s.report.toList, d.subject = target.api.key := by
  induction h with
  | start => simp [SearchState.start]
  | step hs hstep ih =>
      cases hstep with
      | refuse | reject =>
          intro d hd
          rcases List.mem_append.mp (Array.toList_push .. ▸ hd) with hd | hd
          · exact ih d hd
          · rw [List.mem_singleton.mp hd]
            rfl
      | accept => exact ih
      | grow => simpa [SearchState.popTo] using ih

/-- Every diagnostic of a search names its target. -/
theorem subject_of_mem_report {d : Diagnostic} (hd : d ∈ (settings.search graph target).report) :
    d.subject = target.api.key := by
  obtain ⟨last, hlast, -, hfinal⟩ := exists_reaches_final settings graph target
  rw [report_search, hfinal] at hd
  unfold conclude at hd
  split at hd
  · exact hlast.forall_subject d hd
  · rcases List.mem_append.mp (Array.toList_push .. ▸ hd) with hd | hd
    · exact hlast.forall_subject d hd
    · rw [List.mem_singleton.mp hd]
      rfl

/-! ## What is stated -/

/-- A search comes to state a cap in a diagnostic. -/
inductive States (settings : SearchSettings) (graph : Graph) (target : Node) : Int → Prop
  /-- An input could only be filled by a call that the caps do not allow. -/
  | deadEnd {s : SearchState} {id : Nat} {b : Branch} {rest : List (Nat × Branch)}
      {item : Pending} {later : List Pending} {d : DeadEnd} {n : Int}
      (hs : Reaches settings graph target s) (hgo : settings.MayStep s)
      (hstack : s.stack = (id, b) :: rest) (hpending : b.pending = item :: later)
      (hexpand : settings.expand graph s.usage id b item later = .error d) (hn : n ∈ d.caps) :
      States settings graph target n
  /-- The steps are used up while a branch waits and more drivers are wanted. -/
  | exhausted {s : SearchState} (hs : Reaches settings graph target s) (hstack : s.stack ≠ [])
      (hwanted : settings.hasEnough s = false)
      (hused : settings.maxExpansions.toNat ≤ s.expansions) :
      States settings graph target settings.maxExpansions

/-- What the diagnostics along a search state. -/
theorem Reaches.states (h : Reaches settings graph target s) {d : Diagnostic}
    (hd : d ∈ s.report.toList) {n : Int} (hn : n ∈ d.caps) : States settings graph target n := by
  induction h with
  | start => simp [SearchState.start] at hd
  | step hs hstep ih =>
      cases hstep with
      | refuse =>
          rcases List.mem_append.mp (Array.toList_push .. ▸ hd) with hd | hd
          · exact ih hd
          · -- that a driver has no seed states no cap
            rw [List.mem_singleton.mp hd] at hn
            cases hn
      | accept => exact ih hd
      | grow =>
          rw [SearchState.report_pushAll] at hd
          exact ih hd
      | reject hgo hstack hpending hexpand =>
          rcases List.mem_append.mp (Array.toList_push .. ▸ hd) with hd | hd
          · exact ih hd
          · rw [List.mem_singleton.mp hd] at hn
            exact .deadEnd hs hgo hstack hpending hexpand hn

/-- The caps that the diagnostics of a search state. -/
theorem states_iff {n : Int} :
    States settings graph target n ↔ ∃ d ∈ (settings.search graph target).report, n ∈ d.caps := by
  constructor
  · intro h
    cases h with
    | deadEnd hs hgo hstack hpending hexpand hn =>
        exact ⟨_, hs.mem_report_of_deadEnd hgo hstack hpending hexpand, hn⟩
    | @exhausted s hs hstack hwanted hused =>
        -- no step is left, so the search ends in this state
        have hopen : ¬ (s.stack = [] ∨ settings.hasEnough s = true) := by simp [hstack, hwanted]
        have hfinal : settings.final graph target =
            s.record (exhaustedDiagnostic target settings.maxExpansions) := by
          rw [loop_of_reaches hs, Nat.sub_eq_zero_of_le hused, loop_zero, conclude, if_neg hopen]
        refine ⟨exhaustedDiagnostic target settings.maxExpansions, ?_, List.mem_singleton_self _⟩
        rw [report_search, hfinal]
        exact Array.toList_push .. ▸ List.mem_append_right _ (List.mem_singleton_self _)
  · rintro ⟨d, hd, hn⟩
    obtain ⟨last, hlast, hended, hfinal⟩ := exists_reaches_final settings graph target
    rw [report_search, hfinal] at hd
    unfold conclude at hd
    split at hd
    · exact hlast.states hd hn
    · next hopen =>
        obtain ⟨hstack, henough⟩ := not_or.mp hopen
        have hwanted := Bool.eq_false_iff.mpr henough
        rcases List.mem_append.mp (Array.toList_push .. ▸ hd) with hd | hd
        · exact hlast.states hd hn
        · -- a search that ends with a branch on the stack has used up its steps
          have hused := hended.resolve_left hstack
          rw [List.mem_singleton.mp hd] at hn
          rw [List.mem_singleton.mp hn]
          exact .exhausted hlast hstack hwanted (Nat.le_of_not_lt fun hlt => hused ⟨hwanted, hlt⟩)

/-- A search states its own caps. -/
theorem States.mem_caps {n : Int} (h : States settings graph target n) :
    n ∈ [settings.maxDepth, settings.maxCalls, settings.maxExpansions] := by
  cases h with
  | exhausted => simp
  | deadEnd _ _ _ _ hexpand hn =>
      rw [expand_eq] at hexpand
      split at hexpand
      · cases hexpand
      · split at hexpand
        · cases hexpand
        · -- without producers no cap is stated, and otherwise those on depth and calls are
          split at hexpand <;> obtain rfl := Except.error.inj hexpand
          · cases hn
          · rcases List.mem_cons.mp hn with rfl | hn
            · simp
            · simp [List.mem_singleton.mp hn]

/-! ## No target is lost -/

/-- Where calls are tried and a producer may be tried, there is one. -/
theorem tried_ne_nil (usage : Usage) (hbranching : 1 ≤ settings.maxBranching)
    (htries : settings.triesCalls graph b item = true) : settings.tried graph usage item ≠ [] := by
  have hedges : graph.producersFor item.consumer item.slot.input ≠ [] := by
    simpa using (Bool.and_eq_true_iff.mp htries).1
  have horder : settings.order usage (graph.producersFor item.consumer item.slot.input) ≠ [] := by
    obtain ⟨e, he⟩ := List.exists_mem_of_ne_nil _ hedges
    exact List.ne_nil_of_mem (mem_order.mpr he)
  have hcap : settings.maxBranching.toNat ≠ 0 := by omega
  rw [tried, Sequence.cut, if_pos (by omega), ne_eq, List.take_eq_nil_iff]
  exact fun h => h.elim hcap horder

/-- A branch is not replaced by nothing. -/
theorem expand_ok_ne_nil {usage : Usage} {children : List Branch}
    (hbranching : 1 ≤ settings.maxBranching)
    (h : settings.expand graph usage id b item later = .ok children) : children ≠ [] := by
  rw [expand_eq] at h
  split at h
  · next htries =>
      obtain rfl := Except.ok.inj h
      have htried := tried_ne_nil usage hbranching htries
      simp [htried]
  · split at h
    · obtain rfl := Except.ok.inj h
      exact List.cons_ne_nil _ _
    · split at h <;> cases h

/-- A search never runs dry in silence: a branch waits, or one was accepted, or something
was reported. -/
theorem Reaches.not_silent (hbranching : 1 ≤ settings.maxBranching)
    (h : Reaches settings graph target s) :
    s.waiting ≠ [] ∨ s.accepted.toList ≠ [] ∨ s.report.toList ≠ [] := by
  induction h with
  | start => exact .inl (List.cons_ne_nil _ _)
  | step hs hstep ih =>
      cases hstep with
      | refuse | reject =>
          refine .inr (.inr ?_)
          simp [SearchState.record, SearchState.note]
      | accept => exact .inr (.inl (by simp))
      | @grow _ _ _ _ _ children _ _ _ hexpand =>
          -- the branch on top is gone, but not without children
          have hchildren := expand_ok_ne_nil hbranching hexpand
          exact .inl (by simp [hchildren])

/-- A search that ends has accepted a branch or reported something. -/
theorem accepted_ne_nil_or_report_ne_nil (graph : Graph) (target : Node)
    (hdrivers : 1 ≤ settings.maxDrivers) (hbranching : 1 ≤ settings.maxBranching) :
    (settings.search graph target).accepted ≠ [] ∨ (settings.search graph target).report ≠ [] := by
  obtain ⟨last, hlast, hended, hfinal⟩ := exists_reaches_final settings graph target
  rw [accepted_search, report_search, hfinal, conclude_accepted]
  by_cases hempty : last.stack = []
  · -- nothing waits, so the invariant leaves an accepted branch or a diagnostic
    have hconclude : settings.conclude target last = last := if_pos (.inl hempty)
    have hwaiting : last.waiting = [] := by simp [SearchState.waiting, hempty]
    rw [hconclude]
    exact (hlast.not_silent hbranching).resolve_left (absurd hwaiting)
  · by_cases henough : settings.hasEnough last = true
    · -- enough were accepted, which is at least one
      refine .inl fun hnone => ?_
      have hsize : last.accepted.size = 0 := by simpa using congrArg List.length hnone
      have : settings.maxDrivers ≤ last.accepted.size := of_decide_eq_true henough
      omega
    · -- the steps were used up, which is reported
      refine .inr ?_
      rw [conclude, if_neg (by simp [hempty, henough])]
      simp [SearchState.record]

/-- No target is lost: there is a driver for it, or a diagnostic that names it. -/
theorem exists_driver_or_diagnostic (graph : Graph) (target : Node)
    (hdrivers : 1 ≤ settings.maxDrivers) (hbranching : 1 ≤ settings.maxBranching) :
    (∃ d ∈ (settings.search graph target).drivers, d.target = target) ∨
      ∃ d ∈ (settings.search graph target).report, d.subject = target.api.key := by
  rcases accepted_ne_nil_or_report_ne_nil graph target hdrivers hbranching with
    haccepted | hreport
  · obtain ⟨b, hb⟩ := List.exists_mem_of_ne_nil _ haccepted
    have hmem : b.driver? target ∈ (settings.search graph target).drivers.map some :=
      settings.map_driver?_accepted graph target ▸ List.mem_map_of_mem hb
    obtain ⟨d, hd, hdriver⟩ := List.mem_map.mp hmem
    exact .inl ⟨d, hd, (Branch.becomes_of_driver? hdriver.symm).target_eq⟩
  · obtain ⟨d, hd⟩ := List.exists_mem_of_ne_nil _ hreport
    exact .inr ⟨d, hd, subject_of_mem_report hd⟩

end SearchSettings
end FuzzSynth
