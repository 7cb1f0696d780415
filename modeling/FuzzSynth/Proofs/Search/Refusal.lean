/-
What requiring a seed changes.

A search that requires a seed refuses a finished branch without one at the step at which another
search accepts it.  Either way the branch is taken off the stack and nothing is put there, so the
same branches wait afterwards (`Mirrors`).  Two searches that differ in nothing else look at the
same branches in the same order, until one of them has enough drivers (`looked_isPrefix`).

What a search accepts and what it refuses can be read off the branches that it looks at
(`accepted_eq_filter`, `count_noSeedDiagnostic`), so requiring a seed is a filter
(`drivers_eq_take_filter`).  The policy that prefers functions that were used less is left out: it
looks at the drivers found so far, and those are not the same.
-/
import FuzzSynth.Proofs.Search.Budgets

namespace FuzzSynth

/-! ## Drivers with a seed -/

section Seeded

variable {target : Node} {b : Branch} {d : Driver} {branches : List Branch}

theorem Branch.hasFuzzEntry_of_driver? (h : b.driver? target = some d) :
    d.hasFuzzEntry = !b.seeds.isEmpty := by
  have hlength := (Branch.becomes_of_driver? h).length_seeds
  rw [Driver.hasFuzzEntry, Bool.not_inj_iff, Bool.eq_iff_iff, List.isEmpty_iff_length_eq_zero,
    List.isEmpty_iff_length_eq_zero, hlength]

/-- The drivers with a seed are those of the branches with one. -/
theorem filter_hasFuzzEntry (branches : List Branch) (target : Node) :
    (branches.filterMap (·.driver? target)).filter Driver.hasFuzzEntry =
      (branches.filter fun b => !b.seeds.isEmpty).filterMap (·.driver? target) := by
  rw [List.filter_filterMap, List.filterMap_filter]
  refine List.filterMap_congr fun b _ => ?_
  cases hdriver : b.driver? target with
  | none => simp
  | some d => simp [Option.filter, Branch.hasFuzzEntry_of_driver? hdriver]

/-- If all branches become drivers, then those without a seed do. -/
theorem countP_not_hasFuzzEntry
    (h : ∀ b ∈ branches, ∃ d, b.driver? target = some d) :
    (branches.filterMap (·.driver? target)).countP (fun d => !d.hasFuzzEntry) =
      branches.countP fun b => b.seeds.isEmpty := by
  rw [List.countP_filterMap]
  refine List.countP_congr fun b hb => ?_
  obtain ⟨d, hd⟩ := h b hb
  simp [hd, Branch.hasFuzzEntry_of_driver? hd]

end Seeded

/-- The same branches wait in both states, and they got the same numbers. -/
structure SearchState.Mirrors (s s' : SearchState) : Prop where
  stack : s.stack = s'.stack
  arena : s.arena = s'.arena

namespace SearchSettings

variable {settings : SearchSettings} {graph : Graph} {target : Node} {s s' : SearchState}
  {id : Nat} {b : Branch}

/-! ## The branches that a search looks at -/

/-- The branches that the loop looks at, in order. -/
def looked (settings : SearchSettings) (graph : Graph) (target : Node) :
    (budget : Nat) → SearchState → List Branch
  | budget, s =>
      match s.stack with
      | [] => []
      | (id, b) :: rest =>
          if settings.hasEnough s then []
          else
            match budget with
            | 0 => []
            | budget + 1 =>
                b :: looked settings graph target budget
                  (settings.visit graph target id b (s.popTo rest))

/-- The branches that a search looks at, in order. -/
def lookedAt (settings : SearchSettings) (graph : Graph) (target : Node) : List Branch :=
  settings.looked graph target settings.maxExpansions.toNat (.start target)

/-- The drivers that a search meets, in order: those that the finished branches stand for. -/
def met (settings : SearchSettings) (graph : Graph) (target : Node) : List Driver :=
  ((settings.lookedAt graph target).filter fun b => b.pending.isEmpty).filterMap
    (·.driver? target)

/-- The branch is finished and lacks a seed that is required. -/
def refuses (settings : SearchSettings) (b : Branch) : Bool :=
  b.pending.isEmpty && (settings.requireSeed && b.seeds.isEmpty)

/-- The branch is finished and lacks nothing. -/
def keeps (settings : SearchSettings) (b : Branch) : Bool :=
  b.pending.isEmpty && !(settings.requireSeed && b.seeds.isEmpty)

/-- If looking at a branch only adds to a list of the state what it is about the branch, then a run
adds what it is about the branches that it looks at. -/
theorem loop_eq_append_filterMap {α : Type} (part : SearchState → List α) {put : Branch → Option α}
    (hpop : ∀ rest s, part (s.popTo rest) = part s)
    (hvisit : ∀ id b s, part (settings.visit graph target id b s) = part s ++ (put b).toList)
    (hrecord : ∀ s n, part (s.record (exhaustedDiagnostic target n)) = part s)
    (budget : Nat) (s : SearchState) :
    part (settings.loop graph target budget s) =
      part s ++ (settings.looked graph target budget s).filterMap put := by
  induction budget generalizing s with
  | zero =>
      unfold loop looked
      cases s.stack with
      | nil => simp
      | cons entry rest => cases settings.hasEnough s <;> simp [hrecord]
  | succ budget ih =>
      unfold loop looked
      cases hstack : s.stack with
      | nil => simp
      | cons entry rest =>
          cases settings.hasEnough s with
          | true => simp
          | false =>
              have hrest := ih (settings.visit graph target entry.1 entry.2 (s.popTo rest))
              rw [hvisit, hpop] at hrest
              simp only [Bool.false_eq_true, if_false, List.filterMap_cons]
              refine hrest.trans ?_
              cases put entry.2 <;> simp

theorem accepted_visit (settings : SearchSettings) (graph : Graph) (target : Node) (id : Nat)
    (b : Branch) (s : SearchState) :
    (settings.visit graph target id b s).accepted.toList =
      s.accepted.toList ++ (Option.guard settings.keeps b).toList := by
  unfold visit
  split
  · next hpending =>
      unfold finish
      cases hseeds : settings.requireSeed && b.seeds.isEmpty with
      | true => simp [keeps, Option.guard, hpending, hseeds, SearchState.record]
      | false => simp [keeps, Option.guard, hpending, hseeds]
  · next hpending =>
      split <;> simp [keeps, Option.guard, hpending, SearchState.record, SearchState.note]

theorem diagnostic_ne_noSeed (d : DeadEnd) (target : Node) :
    d.diagnostic target ≠ noSeedDiagnostic target := by
  intro h
  cases d with
  | outOfBudget item maxDepth maxCalls =>
      obtain ⟨hkind, -⟩ := Diagnostic.mk.inj h
      cases hkind
  | unfillable item =>
      -- the kind is the same, but the messages begin differently
      have hmessage : "No producer or seed for input " ++ DeadEnd.inputText item =
          "Driver has no raw fuzz input" := congrArg Diagnostic.message h
      have hfirst := congrArg (fun text : String => text.toList.head?) hmessage
      simp at hfirst

/-- The diagnostics for drivers without seeds grow by one exactly with a branch that is refused. -/
theorem noSeed_visit (settings : SearchSettings) (graph : Graph) (target : Node) (id : Nat)
    (b : Branch) (s : SearchState) :
    (settings.visit graph target id b s).report.toList.filter (· == noSeedDiagnostic target) =
      s.report.toList.filter (· == noSeedDiagnostic target) ++
        (if settings.refuses b then some (noSeedDiagnostic target) else none).toList := by
  unfold visit
  split
  · next hpending =>
      unfold finish
      cases hseeds : settings.requireSeed && b.seeds.isEmpty with
      | true => simp [refuses, hpending, hseeds, SearchState.record]
      | false => simp [refuses, hpending, hseeds]
  · next hpending =>
      split
      · simp [refuses, hpending]
      · next d _ =>
          simp [refuses, hpending, SearchState.record, SearchState.note, diagnostic_ne_noSeed]

/-- A search accepts the branches that it looks at and keeps. -/
theorem accepted_eq_filter (settings : SearchSettings) (graph : Graph) (target : Node) :
    (settings.search graph target).accepted =
      (settings.lookedAt graph target).filter settings.keeps := by
  rw [← List.filterMap_eq_filter]
  exact loop_eq_append_filterMap (fun s => s.accepted.toList) (fun _ _ => rfl)
    (accepted_visit settings graph target) (fun _ _ => rfl) settings.maxExpansions.toNat
    (.start target)

/-- The drivers of a search are those of the branches that it looks at and keeps. -/
theorem drivers_eq_filterMap (settings : SearchSettings) (graph : Graph) (target : Node) :
    (settings.search graph target).drivers =
      ((settings.lookedAt graph target).filter settings.keeps).filterMap (·.driver? target) := by
  rw [← accepted_eq_filter]
  rfl

/-- A search reports each branch that it looks at and refuses. -/
theorem count_noSeedDiagnostic (settings : SearchSettings) (graph : Graph) (target : Node) :
    List.count (noSeedDiagnostic target) (settings.search graph target).report =
      (settings.lookedAt graph target).countP settings.refuses := by
  have hrecord : ∀ (s : SearchState) (n : Int),
      (s.record (exhaustedDiagnostic target n)).report.toList.filter
        (· == noSeedDiagnostic target) =
          s.report.toList.filter (· == noSeedDiagnostic target) := fun s n => by
    simp [SearchState.record, (noSeedDiagnostic_ne_exhausted target n).symm]
  have hreport := congrArg List.length (loop_eq_append_filterMap
    (fun s => s.report.toList.filter (· == noSeedDiagnostic target)) (fun _ _ => rfl)
    (noSeed_visit settings graph target) hrecord settings.maxExpansions.toNat (.start target))
  have hrefused : (fun b => (if settings.refuses b then some (noSeedDiagnostic target)
      else none).isSome) = settings.refuses := by
    funext b
    cases settings.refuses b <;> rfl
  rw [List.length_append, List.length_filterMap_eq_countP, hrefused] at hreport
  rw [List.count, List.countP_eq_length_filter]
  exact hreport.trans (Nat.zero_add _)

/-! ## Two searches that differ in what they refuse -/

/-- The settings with seeds required or not, and another cap on the number of drivers. -/
def requiring (settings : SearchSettings) (seeds : Bool) (drivers : Int) : SearchSettings :=
  { settings with requireSeed := seeds, maxDrivers := drivers }

section LockStep

variable {seeds seeds' : Bool} {drivers drivers' : Int}

theorem mirrors_pushAll (h : s.Mirrors s') (branches : List Branch) :
    (s.pushAll branches).Mirrors (s'.pushAll branches) := by
  induction branches with
  | nil => exact h
  | cons b rest ih =>
      constructor
      · simp only [SearchState.pushAll_cons, SearchState.push, ih.stack, ih.arena]
      · simp only [SearchState.pushAll_cons, SearchState.push, ih.arena]

theorem mirrors_finish (h : s.Mirrors s') :
    ((settings.requiring seeds drivers).finish target b s).Mirrors
      ((settings.requiring seeds' drivers').finish target b s') := by
  -- neither refusing nor accepting touches what waits
  have hkept : ∀ (settings : SearchSettings) (s : SearchState),
      (settings.finish target b s).stack = s.stack ∧
        (settings.finish target b s).arena = s.arena := by
    intro settings s
    unfold finish
    split <;> exact ⟨rfl, rfl⟩
  obtain ⟨hstack, harena⟩ := hkept (settings.requiring seeds drivers) s
  obtain ⟨hstack', harena'⟩ := hkept (settings.requiring seeds' drivers') s'
  exact ⟨by rw [hstack, hstack', h.stack], by rw [harena, harena', h.arena]⟩

/-- What waits after a branch has been looked at depends on neither setting. -/
theorem mirrors_visit (hpolicy : settings.tieBreak ≠ .diversity) (h : s.Mirrors s') :
    ((settings.requiring seeds drivers).visit graph target id b s).Mirrors
      ((settings.requiring seeds' drivers').visit graph target id b s') := by
  have hexpand : ∀ item later, (settings.requiring seeds drivers).expand graph s.usage id b item
      later = (settings.requiring seeds' drivers').expand graph s'.usage id b item later := by
    intro item later
    show settings.expand graph s.usage id b item later =
      settings.expand graph s'.usage id b item later
    rw [expand_eq, expand_eq, tried, tried, order_eq_of_ne_diversity hpolicy s.usage s'.usage]
  unfold visit
  cases b.pending with
  | nil => exact mirrors_finish h
  | cons item later =>
      simp only [hexpand]
      cases (settings.requiring seeds' drivers').expand graph s'.usage id b item later with
      | ok branches => exact mirrors_pushAll h branches
      | error d => exact ⟨h.stack, h.arena⟩

theorem size_accepted_visit_le (settings : SearchSettings) (graph : Graph) (target : Node)
    (id : Nat) (b : Branch) (s : SearchState) :
    (settings.visit graph target id b s).accepted.size ≤ s.accepted.size + 1 := by
  have hlength := congrArg List.length (accepted_visit settings graph target id b s)
  rw [List.length_append, Array.length_toList, Array.length_toList] at hlength
  rw [hlength]
  have hone : (Option.guard settings.keeps b).toList.length ≤ 1 := Option.length_toList_le
  omega

/-- A search whose cap on drivers is out of reach looks at all branches that another one looks at,
which only stops before if it has enough drivers. -/
theorem looked_isPrefix (hpolicy : settings.tieBreak ≠ .diversity) (h : s.Mirrors s')
    {budget : Nat} (hcap : (s'.accepted.size : Int) + budget < drivers') :
    (settings.requiring seeds drivers).looked graph target budget s <+:
        (settings.requiring seeds' drivers').looked graph target budget s' ∧
      ((settings.requiring seeds drivers).looked graph target budget s =
          (settings.requiring seeds' drivers').looked graph target budget s' ∨
        drivers ≤
          ((settings.requiring seeds drivers).loop graph target budget s).accepted.size) := by
  induction budget generalizing s s' with
  | zero =>
      have hnone : ∀ (settings : SearchSettings) s, settings.looked graph target 0 s = [] := by
        intro settings s
        unfold looked
        cases s.stack with
        | nil => rfl
        | cons entry rest => cases settings.hasEnough s <;> rfl
      rw [hnone, hnone]
      exact ⟨List.prefix_rfl, .inl rfl⟩
  | succ budget ih =>
      unfold looked loop
      rw [← h.stack]
      cases hstack : s.stack with
      | nil => exact ⟨List.prefix_rfl, .inl rfl⟩
      | cons entry rest =>
          -- the cap of the other search is out of reach
          have hmore : (settings.requiring seeds' drivers').hasEnough s' = false := by
            show decide (drivers' ≤ s'.accepted.size) = false
            rw [decide_eq_false_iff_not]
            omega
          cases henough : (settings.requiring seeds drivers).hasEnough s with
          | true =>
              -- the one way to stop before the other search
              have hdrivers : drivers ≤ s.accepted.size := of_decide_eq_true henough
              exact ⟨List.nil_prefix, .inr hdrivers⟩
          | false =>
              have hvisit : SearchState.Mirrors
                  ((settings.requiring seeds drivers).visit graph target entry.1 entry.2
                    (s.popTo rest))
                  ((settings.requiring seeds' drivers').visit graph target entry.1 entry.2
                    (s'.popTo rest)) := mirrors_visit hpolicy ⟨rfl, h.arena⟩
              have hsize := size_accepted_visit_le (settings.requiring seeds' drivers') graph target
                entry.1 entry.2 (s'.popTo rest)
              obtain ⟨hfirst, hrest⟩ := ih hvisit (by
                have : (s'.popTo rest).accepted.size = s'.accepted.size := rfl
                omega)
              simp only [hmore, Bool.false_eq_true, if_false, List.cons.injEq, true_and]
              exact ⟨(List.prefix_cons_inj entry.2).mpr hfirst, hrest⟩

end LockStep

/-! ## Requiring a seed -/

section Required

variable {m cap : Int}

theorem length_accepted_le (settings : SearchSettings) (graph : Graph) (target : Node) :
    ((settings.search graph target).accepted.length : Int) ≤ max 0 settings.maxDrivers := by
  obtain ⟨last, hlast, -, hfinal⟩ := exists_reaches_final settings graph target
  rw [accepted_search, hfinal, conclude_accepted]
  exact hlast.size_accepted_le

theorem keeps_of_optional (settings : SearchSettings) (cap : Int) :
    (settings.requiring false cap).keeps = fun b => b.pending.isEmpty := by
  funext b
  simp [keeps, requiring]

theorem keeps_of_required (settings : SearchSettings) (m : Int) :
    (settings.requiring true m).keeps = fun b => !b.seeds.isEmpty && b.pending.isEmpty := by
  funext b
  simp [keeps, requiring, Bool.and_comm]

theorem refuses_of_required (settings : SearchSettings) (m : Int) :
    (settings.requiring true m).refuses = fun b => b.seeds.isEmpty && b.pending.isEmpty := by
  funext b
  simp [refuses, requiring, Bool.and_comm]

theorem drivers_of_required (settings : SearchSettings) (m : Int) (graph : Graph) (target : Node) :
    ((settings.requiring true m).search graph target).drivers =
      (((settings.requiring true m).lookedAt graph target).filter
        (settings.requiring true m).keeps).filterMap (·.driver? target) :=
  (settings.requiring true m).drivers_eq_filterMap graph target

/-- The drivers with a seed among those of a search that requires none. -/
theorem filter_drivers_of_optional (settings : SearchSettings) (m cap : Int) (graph : Graph)
    (target : Node) :
    ((settings.requiring false cap).search graph target).drivers.filter Driver.hasFuzzEntry =
      (((settings.requiring false cap).lookedAt graph target).filter
        (settings.requiring true m).keeps).filterMap (·.driver? target) := by
  rw [drivers_eq_filterMap, filter_hasFuzzEntry, keeps_of_optional, keeps_of_required,
    List.filter_filter]

section LockStep

variable (hpolicy : settings.tieBreak ≠ .diversity) (hcap : max 0 settings.maxExpansions < cap)
include hpolicy hcap

/-- A search that requires seeds looks at the branches that one looks at which has no cap on
drivers, and stops before if it has enough drivers. -/
theorem lookedAt_isPrefix (m : Int) (graph : Graph) (target : Node) :
    (settings.requiring true m).lookedAt graph target <+:
        (settings.requiring false cap).lookedAt graph target ∧
      ((settings.requiring true m).lookedAt graph target =
          (settings.requiring false cap).lookedAt graph target ∨
        m ≤ ((settings.requiring true m).search graph target).accepted.length) := by
  refine looked_isPrefix hpolicy ⟨rfl, rfl⟩ ?_
  show (((#[] : Array Branch).size : Nat) : Int) + (settings.maxExpansions.toNat : Nat) < cap
  rw [Array.size_empty]
  omega

/-- The finished branches that a search meets are the first of those that it accepts when nothing
is required. -/
theorem finished_isPrefix (m : Int) (graph : Graph) (target : Node) :
    ((settings.requiring true m).lookedAt graph target).filter (fun b => b.pending.isEmpty) <+:
      ((settings.requiring false cap).search graph target).accepted := by
  rw [accepted_eq_filter, keeps_of_optional]
  exact (lookedAt_isPrefix hpolicy hcap m graph target).1.filter _

theorem drivers_eq_take (m : Int) (graph : Graph) (target : Node) :
    ((settings.requiring true m).search graph target).drivers =
      (((settings.requiring false cap).search graph target).drivers.filter
        Driver.hasFuzzEntry).take m.toNat := by
  obtain ⟨hlooked, hsame⟩ := lookedAt_isPrefix hpolicy hcap m graph target
  have hdrivers := settings.drivers_of_required m graph target
  have hlength := (settings.requiring true m).length_drivers graph target
  have hmost : (((settings.requiring true m).search graph target).accepted.length : Int) ≤
      max 0 m := length_accepted_le _ graph target
  rw [filter_drivers_of_optional settings m]
  rcases hsame with hsame | henough
  · -- both look at the same branches, so the cap is out of reach or just reached
    rw [← hsame, ← hdrivers, List.take_of_length_le (by omega)]
  · -- enough drivers were found, so the first ones are as many as are wanted
    have hfirst := List.prefix_iff_eq_take.mp ((hlooked.filter
      (settings.requiring true m).keeps).filterMap (·.driver? target))
    rw [← hdrivers] at hfirst
    rw [hfirst]
    congr 1
    omega

end LockStep

/-- Requiring a seed is a filter.  The drivers that are found are the first ones with a seed among
those that are found without the requirement and under a cap that the steps do not reach.  Of the
drivers that are met until then each is found or lacks a seed, and then it is reported, once. -/
theorem drivers_eq_take_filter (hpolicy : settings.tieBreak ≠ .diversity)
    (hcap : max 0 settings.maxExpansions < cap) (graph : Graph) (target : Node) :
    ((settings.requiring true m).search graph target).drivers =
        (((settings.requiring false cap).search graph target).drivers.filter
          Driver.hasFuzzEntry).take m.toNat ∧
      (settings.requiring true m).met graph target <+:
        ((settings.requiring false cap).search graph target).drivers ∧
      ((settings.requiring true m).met graph target).filter Driver.hasFuzzEntry =
        ((settings.requiring true m).search graph target).drivers ∧
      List.count (noSeedDiagnostic target)
          ((settings.requiring true m).search graph target).report =
        ((settings.requiring true m).met graph target).countP fun d => !d.hasFuzzEntry := by
  have hmet := finished_isPrefix hpolicy hcap m graph target
  refine ⟨drivers_eq_take hpolicy hcap m graph target, hmet.filterMap _, ?_, ?_⟩
  · rw [met, filter_hasFuzzEntry, List.filter_filter, drivers_of_required, keeps_of_required]
  · -- no finished branch fails to become a driver, so branches count as drivers do
    have hfinished : ∀ b ∈ ((settings.requiring true m).lookedAt graph target).filter
        (fun b => b.pending.isEmpty), ∃ d, b.driver? target = some d := by
      intro b hb
      obtain ⟨hgrown, hpending⟩ :=
        (settings.requiring false cap).grown_of_mem_accepted graph target (hmet.subset hb)
      obtain ⟨d, hd, -⟩ := hgrown.coherent.exists_driver hpending
      exact ⟨d, hd⟩
    rw [count_noSeedDiagnostic, refuses_of_required, met, countP_not_hasFuzzEntry hfinished,
      List.countP_filter]

/-! ### A small case -/

/-- `level() -> u8`. -/
def readLevel : Instance :=
  let level : Signature := ⟨"level", [], [], .named "u8" []⟩
  ⟨level, .empty, level⟩

/-- `mix(left: u8, right: u8)`, for which levels are read or made up. -/
def mixLevels : Instance :=
  let mix : Signature := ⟨"mix", [], [("left", .named "u8" []), ("right", .named "u8" [])], .unit⟩
  ⟨mix, .empty, mix⟩

/-- Calls and seeds for each input, and no cap in the way. -/
def mixSettings : SearchSettings := ⟨2, 10, 4, 8, 100, .shortest, false, true⟩

/-- Of the four ways to fill two inputs the first has no seed, so that the two drivers with a seed
that are wanted are the second and the third. -/
theorem drivers_eq_take_filter_mixLevels :
    mixSettings.tieBreak ≠ .diversity ∧ max 0 mixSettings.maxExpansions < 101 ∧
      ((mixSettings.requiring true 2).search (Graph.build ⟨true, true⟩ [readLevel, mixLevels])
        ⟨1, mixLevels⟩).drivers.length = 2 ∧
      ((mixSettings.requiring true 2).search (Graph.build ⟨true, true⟩ [readLevel, mixLevels])
        ⟨1, mixLevels⟩).drivers = (((mixSettings.requiring false 101).search
          (Graph.build ⟨true, true⟩ [readLevel, mixLevels]) ⟨1, mixLevels⟩).drivers.filter
            Driver.hasFuzzEntry).take 2 ∧
      List.count (noSeedDiagnostic ⟨1, mixLevels⟩) ((mixSettings.requiring true 2).search
        (Graph.build ⟨true, true⟩ [readLevel, mixLevels]) ⟨1, mixLevels⟩).report = 1 := by
  have hpolicy : mixSettings.tieBreak ≠ .diversity := by decide
  have hcap : max 0 mixSettings.maxExpansions < 101 := by decide
  obtain ⟨hdrivers, -, -, hreport⟩ := drivers_eq_take_filter (m := 2) hpolicy hcap
    (Graph.build ⟨true, true⟩ [readLevel, mixLevels]) ⟨1, mixLevels⟩
  refine ⟨hpolicy, hcap, by decide +kernel, hdrivers, hreport.trans ?_⟩
  decide +kernel

end Required

end SearchSettings
end FuzzSynth
